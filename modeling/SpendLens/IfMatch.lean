/-
# If-Match and lost updates

Two calls patch or delete one expense and carry the same entity tag.  Each reads
the row, compares its tag, writes and commits, and the read takes no lock: a call
that has passed its check is not stopped by what the other commits afterwards.

A call that commits a change before the other one reads is the only thing that
protects the loser.  So the tag does what it is for, over every order of the
statements of the two calls in which neither reads between the check and the commit
of the other.
-/
import SpendLens.ExpenseService
import SpendLens.Numerals
import SpendLens.Steps

namespace SpendLens

/-! ## The two calls -/

/-- A call that carries an `If-Match` value. -/
inductive Edit where
  | update (userId : UUID) (patch : ExpensePatch)
  | delete (userId : UUID)

/-- Perform statements one after the other. -/
def performAll : List Stmt → Service Unit
  | [] => .ret ()
  | s :: ws => (sql s).bind (fun _ => performAll ws)

namespace Edit

def userId : Edit → UUID
  | update userId _ => userId
  | delete userId => userId

def isDelete : Edit → Bool
  | update _ _ => false
  | delete _ => true

/-- The call. -/
def run (env : Env) (expenseId : UUID) (tag : String) : Edit → Service Unit
  | update userId patch => do
      let _ ← updateExpense env userId expenseId patch (some tag)
      return ()
  | delete userId => deleteExpense env userId expenseId (some tag)

/-- The statements between the check and the commit, for the loaded row. -/
def writes (env : Env) (e : Expense) : Edit → List Stmt
  | update userId patch =>
      (if (patch.columns.filter (ExpenseColumn.changes e)).isEmpty then []
        else [.updateExpense e.id (patch.columns.filter (ExpenseColumn.changes e))]) ++
        ((patch.correction e).map (fun c =>
          Stmt.upsertCorrection userId (normaliseMerchant env.unicode c.1) c.2)).toList
  | delete _ => [.deleteExpense e.id]

/-- What follows the commit. -/
def answer (e : Expense) : Edit → Service Unit
  | update _ _ => (refreshExpense e.id).bind (fun _ => .ret ())
  | delete _ => .ret ()

/-- The rest of a call that has `ws` left to write. -/
def finish (e : Expense) (edit : Edit) (ws : List Stmt) : Service Unit :=
  (performAll ws).bind (fun _ => commit.bind (fun _ => edit.answer e))

/-- The rest of a call that has loaded a row. -/
def afterRead (env : Env) (expenseId : UUID) (tag : String) (edit : Edit) (e : Expense) :
    Service Unit :=
  if isStale env (some tag) e then .raise (.etagMismatch expenseId)
  else edit.finish e (edit.writes env e)

end Edit

theorem performAll_append (ws vs : List Stmt) :
    performAll (ws ++ vs) = (performAll ws).bind (fun _ => performAll vs) := by
  induction ws with
  | nil => rfl
  | cons s ws ih =>
      show (sql s).bind (fun _ => performAll (ws ++ vs)) = _
      rw [ih]
      exact (Prog.bind_assoc _ _ _).symm

/-- A patch is written by the statements `Edit.writes` lists. -/
theorem applyPatch_eq (env : Env) (userId : UUID) (e : Expense) (patch : ExpensePatch) :
    applyPatch env userId e patch = performAll ((Edit.update userId patch).writes env e) := by
  have hflush : flushColumns ExpenseColumn.changes (fun cols => sql (.updateExpense e.id cols)) e
      patch.columns =
      performAll (if (patch.columns.filter (ExpenseColumn.changes e)).isEmpty then []
        else [.updateExpense e.id (patch.columns.filter (ExpenseColumn.changes e))]) := by
    unfold flushColumns
    by_cases hcols : (patch.columns.filter (ExpenseColumn.changes e)).isEmpty
    · rw [if_pos hcols, if_pos hcols]
      rfl
    · rw [if_neg hcols, if_neg hcols]
      exact (Prog.bind_ret_right _).symm
  rw [Edit.writes, performAll_append, ← hflush]
  unfold applyPatch
  congr 1
  funext _
  cases patch.correction e with
  | none => rfl
  | some c => exact (Prog.bind_ret_right _).symm

/-- **A call is its read and what follows.** -/
theorem Edit.run_eq (env : Env) (id : UUID) (tag : String) (edit : Edit) :
    edit.run env id tag = (getExpense edit.userId id).bind (edit.afterRead env id tag) := by
  cases edit with
  | update userId patch =>
      show ((getExpense userId id).bind _).bind _ = _
      rw [Prog.bind_assoc]
      congr 1
      funext e
      unfold afterRead
      by_cases hs : isStale env (some tag) e = true
      · rw [if_pos hs, if_pos hs]
        rfl
      · rw [if_neg hs, if_neg hs]
        show ((applyPatch env userId e patch).bind
          (fun _ => commit.bind (fun _ => refreshExpense e.id))).bind _ = _
        rw [applyPatch_eq, Prog.bind_assoc, finish]
        congr 1
        funext _
        exact Prog.bind_assoc _ _ _
  | delete userId =>
      show (getExpense userId id).bind _ = _
      congr 1
      funext e
      unfold afterRead
      by_cases hs : isStale env (some tag) e = true
      · rw [if_pos hs, if_pos hs]
        rfl
      · rw [if_neg hs, if_neg hs]
        show _ = ((sql (.deleteExpense e.id)).bind (fun _ => Prog.ret ())).bind _
        rw [Prog.bind_assoc]
        congr 1
        funext _
        exact (Prog.bind_ret_right _).symm

/-! ## The state between the statements -/

/-- The session has nothing to discard. -/
structure Db.NothingOf {Tx : Type} [DecidableEq Tx] (t : Tx) (db : Db Tx) : Prop where
  receipts : db.receipts.rollback t = db.receipts
  expenses : db.expenses.rollback t = db.expenses
  budgets : db.budgets.rollback t = db.budgets
  corrections : db.corrections.rollback t = db.corrections
  connections : db.connections.rollback t = db.connections

namespace Db

variable {Tx : Type} [DecidableEq Tx] {t t' : Tx} {db : Db Tx}

theorem NothingOf.rollback_eq (h : db.NothingOf t) : db.rollback t = db := by
  rw [rollback, h.receipts, h.expenses, h.budgets, h.corrections, h.connections]

theorem NothingOf.commit (h : db.NothingOf t) (t' : Tx) : (db.commit t').NothingOf t :=
  ⟨Store.rollback_commit_eq_self h.receipts t', Store.rollback_commit_eq_self h.expenses t',
    Store.rollback_commit_eq_self h.budgets t', Store.rollback_commit_eq_self h.corrections t',
    Store.rollback_commit_eq_self h.connections t'⟩

theorem nothingOf_commit_self (db : Db Tx) (t : Tx) : (db.commit t).NothingOf t :=
  ⟨Store.rollback_commit_self _ t, Store.rollback_commit_self _ t, Store.rollback_commit_self _ t,
    Store.rollback_commit_self _ t, Store.rollback_commit_self _ t⟩

theorem NothingOf.stage_expenses (h : db.NothingOf t) (hne : t' ≠ t) (w : Write Expense UUID) :
    { db with expenses := db.expenses.stage t' w }.NothingOf t :=
  { h with expenses := Store.rollback_stage_eq_self h.expenses hne w }

theorem NothingOf.stage_corrections (h : db.NothingOf t) (hne : t' ≠ t)
    (w : Write CategoryCorrection (UUID × String)) :
    { db with corrections := db.corrections.stage t' w }.NothingOf t :=
  { h with corrections := Store.rollback_stage_eq_self h.corrections hne w }

end Db

/-- The tag tells two versions of an expense apart. -/
structure Env.TagsDiffer (env : Env) : Prop where
  hash : Function.Injective env.sha256Hex32
  isoTimestamp : Function.Injective env.isoTimestamp

theorem updatedAt_of_computeEtag {env : Env} (h : env.TagsDiffer) {a b : Expense}
    (hid : a.id = b.id) (htag : computeEtag env a = computeEtag env b) :
    a.updatedAt = b.updatedAt := by
  unfold computeEtag at htag
  rw [String.append_left_inj, String.append_right_inj] at htag
  have htext := h.hash htag
  rw [hid, String.append_right_inj] at htext
  exact h.isoTimestamp htext

namespace Edit

/-- The call changes the row, and the database can store what it makes of it. -/
def Applies (env : Env) (e : Expense) : Edit → Prop
  | update _ patch =>
      patch.columns.filter (ExpenseColumn.changes e) ≠ [] ∧
        (∃ row, storeAll ExpenseColumn.store e
          (patch.columns.filter (ExpenseColumn.changes e)) = .ok row) ∧
        ∀ c, patch.correction e = some c → textOk (normaliseMerchant env.unicode c.1) = true ∧
          (normaliseMerchant env.unicode c.1).length ≤ 255
  | delete _ => True

/-- The expense is another version, or it is deleted. -/
def Done (e : Expense) (T : Table Expense UUID Expense.id) : Edit → Prop
  | update _ _ => ∃ row, T.get e.id = some row ∧ e.updatedAt < row.updatedAt
  | delete _ => T.get e.id = none

/-- The call has passed its check, and its commit is still to come. -/
def InFlight (env : Env) (edit : Edit) (p : Service Unit) : Prop :=
  ∃ e ws, ws <:+ edit.writes env e ∧ p = edit.finish e ws

/-- The call has not read the expense yet, or it has been refused. -/
def Waits (env : Env) (id : UUID) (tag : String) (edit : Edit) (p : Service Unit) : Prop :=
  p = edit.run env id tag ∨ p = .raise (.etagMismatch id) ∨ p = .raise (.expenseNotFound id)

theorem finish_cons (e : Expense) (edit : Edit) (s : Stmt) (ws : List Stmt) :
    edit.finish e (s :: ws) = (sql s).bind (fun _ => edit.finish e ws) :=
  Prog.bind_assoc _ _ _

theorem finish_not_ended (e : Expense) (edit : Edit) (ws : List Stmt) :
    (edit.finish e ws).ended = false := by
  cases ws with
  | nil => rfl
  | cons s ws => rfl

theorem run_not_ended (env : Env) (id : UUID) (tag : String) (edit : Edit) :
    (edit.run env id tag).ended = false := by
  rw [run_eq]
  rfl

/-- A call begins with its read. -/
theorem run_eq_bind (env : Env) (id : UUID) (tag : String) (edit : Edit) :
    ∃ f, edit.run env id tag = (sql (.selectExpenses [] (isExpenseOf edit.userId id))).bind f ∧
      f [] = .raise (.expenseNotFound id) ∧ ∀ e, f [e] = edit.afterRead env id tag e := by
  refine ⟨?rest, ?call, ?missing, ?found⟩
  case call =>
    rw [run_eq]
    exact Prog.bind_assoc _ _ _
  case missing => rfl
  case found => exact fun e => rfl

end Edit

/-! ## Two calls on one backend -/

/-- The programs of the two calls and what they share. -/
abbrev TwoCalls : Type := Config Bool Op.Res PyExc Unit (World Bool)

/-- The two calls before their first statement. -/
def twoCalls (env : Env) (id : UUID) (tag : String) (edits : Bool → Edit) (w : World Bool) :
    TwoCalls :=
  ⟨fun i => (edits i).run env id tag, w⟩

/-- The condition on a step of call `i`: no fault strikes it, and if it is the read, the other call
is not in flight, and a row that passes the check is one the call applies to. -/
structure ReadsAlone (env : Env) (id : UUID) (tag : String) (edits : Bool → Edit) (c : TwoCalls)
    (i : Bool) : Prop where
  faultless : env.fault c.shared.calls = .none
  alone : c.threads i = (edits i).run env id tag → ¬(edits !i).InFlight env (c.threads !i)
  applies : c.threads i = (edits i).run env id tag →
    ∀ e ∈ c.shared.db.expenses.committed.rows, isExpenseOf (edits i).userId id e = true →
      computeEtag env e = tag → (edits i).Applies env e

/-- **What the tag is for**, in a run of the two calls: one of them succeeds at most, and one that
does not has been refused and has left the database as it was, at every step. -/
structure PreventsLostUpdate (env : Env) (id : UUID) (c : TwoCalls)
    (as : List (Machine.Action Bool Empty)) : Prop where
  oneSucceeds : ¬∀ i, ((backend env).run c as).threads i = .ret ()
  refused : ∀ i err, ((backend env).run c as).threads i = .raise err →
    err = .etagMismatch id ∨ err = .expenseNotFound id
  changesNothing : ∀ i err, ((backend env).run c as).threads i = .raise err →
    (backend env).Along (fun c a => a = .step i → ((backend env).act c a).shared.db = c.shared.db)
      c as

namespace IfMatch

/-! ### One statement of a call -/

section steps

variable {env : Env} {c : TwoCalls} {i : Bool} {w : World Bool}

theorem exec_sql_ok {s : Stmt} {a : s.Res} {db : Db Bool} (hf : w.failed i = false)
    (hfault : env.fault w.calls = .none)
    (hs : s.exec (env.clock w.calls) i w.db = some (.ok a, db)) :
    exec env i (.sql s) w = some (.ok a, { w with db := db }.tick) := by
  simp only [exec, hf, hfault, hs, Bool.false_eq_true, if_false, ne_eq, not_true_eq_false]

theorem exec_commit_ok (hf : w.failed i = false) (hfault : env.fault w.calls = .none) :
    exec env i .commit w = some (.ok (), { w with db := w.db.commit i }.tick) := by
  simp only [exec, hf, hfault, Bool.false_eq_true, if_false]

/-- A call performs the operation it asks for. -/
theorem act_perform {o : Op} {a : o.Res} {f : o.Res → Service Unit}
    (h : c.threads i = (Prog.perform o).bind f) (hx : exec env i o c.shared = some (.ok a, w)) :
    (backend env).act c (.step i) = ⟨Function.update c.threads i (f a), w⟩ :=
  Machine.act_step_call (M := backend env) h hx

/-- A call that has ended, and has nothing to discard, leaves everything as it is. -/
theorem act_ended (hend : (c.threads i).ended = true) (hdb : c.shared.db.NothingOf i)
    (hf : c.shared.failed i = false) : (backend env).act c (.step i) = c := by
  have hclose : c.shared.close i = c.shared := by
    unfold World.close
    rw [hdb.rollback_eq]
    congr 1
    funext j
    by_cases hj : j = i
    · rw [if_pos hj, hj, hf]
    · rw [if_neg hj]
  cases hp : c.threads i with
  | ret a =>
      rw [Machine.act_step_ret hp]
      show (⟨c.threads, c.shared.close i⟩ : TwoCalls) = c
      rw [hclose]
  | raise e =>
      rw [Machine.act_step_raise hp]
      show (⟨c.threads, c.shared.close i⟩ : TwoCalls) = c
      rw [hclose]
  | call o k =>
      rw [hp] at hend
      cases hend

end steps

/-! ### Statements that are not waited for -/

section free

variable {db : Db Bool} {i : Bool} {now : Timestamp}

theorem not_locked {V K : Type} {key : V → K} [DecidableEq K] {s : Store Bool V K key}
    (h : s.rollback (!i) = s) (k : K) : s.locked i k = false := by
  refine Store.locked_eq_false (fun t' hne => ?_) k
  rw [Bool.eq_not_of_ne hne]
  exact h

theorem exec_updateExpense_ok (hother : db.NothingOf !i) {e row : Expense}
    {cols : List ExpenseColumn} (hget : (db.expenses.view i).get e.id = some e)
    (hstore : storeAll ExpenseColumn.store e cols = .ok row) :
    (Stmt.updateExpense e.id cols).exec now i db = some (.ok (), { db with
      expenses := db.expenses.stage i (.put { row with id := e.id, updatedAt := now }) }) := by
  simp only [Stmt.exec, update, hget, not_locked hother.expenses, hstore, Except.map,
    Bool.false_eq_true, if_false, Option.map_some]

theorem exec_deleteExpense_ok (hother : db.NothingOf !i) {e : Expense}
    (hget : (db.expenses.view i).get e.id = some e) :
    (Stmt.deleteExpense e.id).exec now i db =
      some (.ok (), { db with expenses := db.expenses.stage i (.del e.id) }) := by
  simp only [Stmt.exec, delete, hget, not_locked hother.expenses, Bool.false_eq_true, if_false,
    Option.map_some]

/-- An upsert the database accepts. -/
def Recordable : Stmt → Prop
  | .upsertCorrection _ merchant _ => textOk merchant = true ∧ merchant.length ≤ 255
  | _ => False

theorem exec_recordable (hother : db.NothingOf !i) {s : Stmt} (hs : Recordable s) :
    ∃ a v, s.exec now i db =
      some (.ok a, { db with corrections := db.corrections.stage i (.put v) }) := by
  cases s with
  | upsertCorrection userId merchant category =>
      obtain ⟨htext, hlength⟩ := hs
      simp only [Stmt.exec, htext, hlength, not_locked hother.corrections, decide_true,
        Bool.and_self, Bool.false_eq_true, if_true, if_false]
      exact ⟨(), _, rfl⟩
  | _ => exact hs.elim

end free

/-! ### Where the two calls are -/

section stages

variable (env : Env) (id : UUID) (tag : String) (edits : Bool → Edit)
  (T : Table Expense UUID Expense.id)

/-- A call that has written nothing: it has not read yet, or it has been refused. -/
structure Idle (c : TwoCalls) (j : Bool) : Prop where
  program : (edits j).Waits env id tag (c.threads j)
  nothing : c.shared.db.NothingOf j
  healthy : c.shared.failed j = false

/-- Neither call has passed its check. -/
structure Before (c : TwoCalls) : Prop where
  idle : ∀ j, Idle env id tag edits c j
  committed : c.shared.db.expenses.committed = T

/-- Call `i` has passed its check with the row `e`, and `ws` is what it still has to write. -/
structure During (c : TwoCalls) (i : Bool) (e : Expense) (ws : List Stmt) : Prop where
  other : Idle env id tag edits c !i
  healthy : c.shared.failed i = false
  program : c.threads i = (edits i).finish e ws
  left : ws <:+ (edits i).writes env e
  row : T.get id = some e
  tagged : computeEtag env e = tag
  committed : c.shared.db.expenses.committed = T
  progress : c.shared.db.expenses.view i = T ∧ ws = (edits i).writes env e ∧
      (edits i).Applies env e ∨
    (edits i).Done e (c.shared.db.expenses.view i) ∧ ∀ s ∈ ws, Recordable s

/-- Call `i` has committed what it has made of the row `e`. -/
structure After (c : TwoCalls) (i : Bool) (e : Expense) : Prop where
  other : Idle env id tag edits c !i
  nothing : c.shared.db.NothingOf i
  healthy : c.shared.failed i = false
  program : c.threads i = (edits i).answer e ∨ c.threads i = .ret ()
  row : e.id = id
  tagged : computeEtag env e = tag
  done : (edits i).Done e c.shared.db.expenses.committed

/-- Call `i` has passed its check. -/
def Passed (c : TwoCalls) (i : Bool) : Prop :=
  (∃ e ws, During env id tag edits T c i e ws) ∨ ∃ e, After env id tag edits c i e

end stages

variable {env : Env} {id : UUID} {tag : String} {edits : Bool → Edit}
  {T : Table Expense UUID Expense.id} {c : TwoCalls} {i j : Bool} {e : Expense} {ws : List Stmt}

/-- An idle call stays idle while the other one moves. -/
theorem Idle.moved (h : Idle env id tag edits c j) (hne : j ≠ i) {p : Service Unit}
    {w : World Bool} (hdb : w.db.NothingOf j) (hf : w.failed j = c.shared.failed j) :
    Idle env id tag edits ⟨Function.update c.threads i p, w⟩ j where
  program := by
    show (edits j).Waits env id tag (Function.update c.threads i p j)
    rw [Function.update_of_ne hne]
    exact h.program
  nothing := hdb
  healthy := hf.trans h.healthy

/-- A call that has been refused stays as it is. -/
theorem Idle.act_of_ne_run (h : Idle env id tag edits c j)
    (hrun : c.threads j ≠ (edits j).run env id tag) : (backend env).act c (.step j) = c := by
  refine act_ended ?_ h.nothing h.healthy
  obtain hp | hp | hp := h.program
  · exact absurd hp hrun
  · rw [hp]
    rfl
  · rw [hp]
    rfl

/-- The read of a call: it is refused, or it has passed its check. -/
theorem Idle.act_run (h : Idle env id tag edits c j)
    (hrun : c.threads j = (edits j).run env id tag) (hfault : env.fault c.shared.calls = .none) :
    ∃ p, (backend env).act c (.step j) = ⟨Function.update c.threads j p, c.shared.tick⟩ ∧
      (p = .raise (.etagMismatch id) ∨ p = .raise (.expenseNotFound id) ∨
        ∃ e, c.shared.db.expenses.committed.get id = some e ∧
          isExpenseOf (edits j).userId id e = true ∧ computeEtag env e = tag ∧
          p = (edits j).finish e ((edits j).writes env e)) := by
  obtain ⟨f, hf, hnone, hsome⟩ := (edits j).run_eq_bind env id tag
  have hrows : (Stmt.selectExpenses [] (isExpenseOf (edits j).userId id)).exec
      (env.clock c.shared.calls) j c.shared.db =
      some (.ok ((c.shared.db.expenses.committed.get id).filter
        (fun e => e.userId = (edits j).userId)).toList, c.shared.db) := by
    have hfilter : c.shared.db.expenses.committed.rows.filter (isExpenseOf (edits j).userId id) =
        ((c.shared.db.expenses.committed.get id).filter
          (fun e => e.userId = (edits j).userId)).toList :=
      Table.filter_key _ _ _
    rw [← hfilter, ← Store.view_of_rollback_eq_self h.nothing.expenses]
    rfl
  have hact := act_perform (hrun.trans hf) (exec_sql_ok h.healthy hfault hrows)
  refine ⟨_, hact, ?_⟩
  cases hget : c.shared.db.expenses.committed.get id with
  | none => exact Or.inr (Or.inl hnone)
  | some e =>
      have hid : e.id = id := Table.key_of_get hget
      by_cases huser : e.userId = (edits j).userId
      · have hone : ((some e).filter (fun e => e.userId = (edits j).userId)).toList = [e] := by
          simp [huser]
        rw [hone, hsome]
        unfold Edit.afterRead
        by_cases htag : tag = computeEtag env e
        · have hfresh : ¬isStale env (some tag) e = true := by simp [isStale, htag]
          rw [if_neg hfresh]
          refine Or.inr (Or.inr ⟨e, rfl, ?_, htag.symm, rfl⟩)
          simp [isExpenseOf, hid, huser]
        · have hstale : isStale env (some tag) e = true := by simp [isStale, htag]
          rw [if_pos hstale]
          exact Or.inl rfl
      · have hnil : ((some e).filter (fun e => e.userId = (edits j).userId)).toList = [] := by
          simp [huser]
        rw [hnil]
        exact Or.inr (Or.inl hnone)

/-! ### One step -/

/-- Before a check has been passed, a step leaves the database or is a read that passes it. -/
theorem Before.step (h : Before env id tag edits T c) (hok : ReadsAlone env id tag edits c i) :
    Before env id tag edits T ((backend env).act c (.step i)) ∧
        ((backend env).act c (.step i)).shared.db = c.shared.db ∨
      Passed env id tag edits T ((backend env).act c (.step i)) i := by
  by_cases hrun : c.threads i = (edits i).run env id tag
  · obtain ⟨p, hact, hp⟩ := (h.idle i).act_run hrun hok.faultless
    rw [hact]
    -- the other call, and this one if it is refused, are idle
    have hidle : ∀ j, (j = i → (edits i).Waits env id tag p) →
        Idle env id tag edits ⟨Function.update c.threads i p, c.shared.tick⟩ j := by
      intro j hwaits
      refine ⟨?_, (h.idle j).nothing, (h.idle j).healthy⟩
      show (edits j).Waits env id tag (Function.update c.threads i p j)
      by_cases hj : j = i
      · subst hj
        rw [Function.update_self]
        exact hwaits rfl
      · rw [Function.update_of_ne hj]
        exact (h.idle j).program
    obtain hp | hp | ⟨e, hget, howned, htag, hp⟩ := hp
    · exact Or.inl ⟨⟨fun j => hidle j (fun _ => Or.inr (Or.inl hp)), h.committed⟩, rfl⟩
    · exact Or.inl ⟨⟨fun j => hidle j (fun _ => Or.inr (Or.inr hp)), h.committed⟩, rfl⟩
    · have happlies := hok.applies hrun e (Table.mem_of_get hget) howned htag
      rw [h.committed] at hget
      have hview : c.shared.db.expenses.view i = T :=
        (Store.view_of_rollback_eq_self (h.idle i).nothing.expenses).trans h.committed
      refine Or.inr (Or.inl ⟨e, (edits i).writes env e, hidle (!i) (fun hi => ?_),
        (h.idle i).healthy, ?_, List.suffix_rfl, hget, htag, h.committed,
        Or.inl ⟨hview, rfl, happlies⟩⟩)
      · exact absurd hi (Bool.not_ne_self i)
      · show Function.update c.threads i p i = _
        rw [Function.update_self, hp]
  · rw [(h.idle i).act_of_ne_run hrun]
    exact Or.inl ⟨h, rfl⟩

/-- While a call is between its check and its commit, the other one stays where it is. -/
theorem During.step_other (h : During env id tag edits T c i e ws)
    (hok : ReadsAlone env id tag edits c !i) : (backend env).act c (.step !i) = c := by
  refine h.other.act_of_ne_run (fun hrun => hok.alone hrun ?_)
  rw [Bool.not_not]
  exact ⟨e, ws, h.left, h.program⟩

/-- It writes one statement after the other. -/
theorem During.write (h : During env id tag edits T c i e ws) {s : Stmt} {vs : List Stmt}
    (hws : ws = s :: vs) (hfault : env.fault c.shared.calls = .none) {a : s.Res} {db : Db Bool}
    (hexec : s.exec (env.clock c.shared.calls) i c.shared.db = some (.ok a, db))
    (hnothing : db.NothingOf !i) (hcommitted : db.expenses.committed = T)
    (hdone : (edits i).Done e (db.expenses.view i)) (hvs : ∀ s ∈ vs, Recordable s) :
    During env id tag edits T ((backend env).act c (.step i)) i e vs := by
  have hprogram : c.threads i = (sql s).bind (fun _ => (edits i).finish e vs) := by
    rw [h.program, hws]
    exact Edit.finish_cons e _ s vs
  rw [act_perform hprogram (exec_sql_ok h.healthy hfault hexec)]
  have hleft : vs <:+ (edits i).writes env e := (List.suffix_cons s vs).trans (hws ▸ h.left)
  refine ⟨h.other.moved (Bool.not_ne_self i) hnothing rfl, h.healthy, ?_, hleft, h.row, h.tagged,
    hcommitted, Or.inr ⟨hdone, hvs⟩⟩
  show Function.update c.threads i _ i = _
  rw [Function.update_self]

/-- The first statement of a call that has passed its check makes another version of the row, or
deletes it. -/
theorem During.write_first (h : During env id tag edits T c i e ws)
    (hrises : ∀ n, e.updatedAt < env.clock n) (hfault : env.fault c.shared.calls = .none)
    (hview : c.shared.db.expenses.view i = T) (hws : ws = (edits i).writes env e)
    (happlies : (edits i).Applies env e) :
    Passed env id tag edits T ((backend env).act c (.step i)) i := by
  have hid : e.id = id := Table.key_of_get h.row
  have hget : (c.shared.db.expenses.view i).get e.id = some e := by rw [hview, hid, h.row]
  have hne : i ≠ !i := (Bool.not_ne_self i).symm
  cases hedit : edits i with
  | update userId patch =>
      rw [hedit] at hws happlies
      obtain ⟨hcols, ⟨row, hstore⟩, hcorrection⟩ := happlies
      rw [Edit.writes, if_neg (by rwa [List.isEmpty_iff])] at hws
      refine Or.inl ⟨e, _, h.write hws hfault
        (exec_updateExpense_ok h.other.nothing hget hstore)
        (h.other.nothing.stage_expenses hne _) h.committed ?_ ?_⟩
      · rw [hedit]
        refine ⟨{ row with id := e.id, updatedAt := env.clock c.shared.calls }, ?_, hrises _⟩
        rw [Store.get_view_stage]
        exact if_pos ⟨rfl, rfl⟩
      · intro s hs
        obtain ⟨correction, hcorr, rfl⟩ := Option.map_eq_some_iff.1 (Option.mem_toList.1 hs)
        exact hcorrection correction hcorr
  | delete userId =>
      rw [hedit] at hws
      refine Or.inl ⟨e, _, h.write hws hfault (exec_deleteExpense_ok h.other.nothing hget)
        (h.other.nothing.stage_expenses hne _) h.committed ?_ (fun s hs => nomatch hs)⟩
      rw [hedit]
      show (((c.shared.db.expenses.stage i (.del e.id)).view i).get e.id) = none
      rw [Store.get_view_stage]
      exact if_pos ⟨rfl, rfl⟩

/-- **A call that has passed its check goes on**: it writes what is left, or commits. -/
theorem During.step (h : During env id tag edits T c i e ws)
    (hrises : ∀ n, e.updatedAt < env.clock n) (hfault : env.fault c.shared.calls = .none) :
    Passed env id tag edits T ((backend env).act c (.step i)) i := by
  obtain ⟨hview, hws, happlies⟩ | ⟨hdone, hvs⟩ := h.progress
  · exact h.write_first hrises hfault hview hws happlies
  · cases ws with
    | nil =>
        have hprogram : c.threads i = commit.bind (fun _ => (edits i).answer e) := h.program
        rw [Passed, act_perform hprogram (exec_commit_ok h.healthy hfault)]
        refine Or.inr ⟨e, h.other.moved (Bool.not_ne_self i) (h.other.nothing.commit i) rfl,
          Db.nothingOf_commit_self _ i, h.healthy, Or.inl ?_, Table.key_of_get h.row, h.tagged,
          hdone⟩
        show Function.update c.threads i _ i = _
        rw [Function.update_self]
    | cons s vs =>
        obtain ⟨a, v, hexec⟩ := @exec_recordable _ _ (env.clock c.shared.calls)
          h.other.nothing s (hvs s List.mem_cons_self)
        exact Or.inl ⟨e, vs, h.write rfl hfault hexec
          (h.other.nothing.stage_corrections (Bool.not_ne_self i).symm (.put v)) h.committed hdone
          (fun s hs => hvs s (List.mem_cons_of_mem _ hs))⟩

/-- A commit has made the tag stale. -/
theorem After.not_tagged (h : After env id tag edits c i e) (htags : env.TagsDiffer) {a : Expense}
    (hget : c.shared.db.expenses.committed.get id = some a) : computeEtag env a ≠ tag := by
  intro htag
  have hdone := h.done
  rw [← h.tagged] at htag
  rw [← h.row] at hget
  cases hedit : edits i with
  | update userId patch =>
      rw [hedit] at hdone
      obtain ⟨row, hrow, hlt⟩ := hdone
      rw [hget] at hrow
      obtain rfl := Option.some.inj hrow
      rw [updatedAt_of_computeEtag htags (Table.key_of_get hget) htag] at hlt
      exact absurd hlt (Nat.lt_irrefl _)
  | delete userId =>
      rw [hedit] at hdone
      rw [show c.shared.db.expenses.committed.get e.id = none from hdone] at hget
      cases hget

/-- Once a call has committed, the other one is refused. -/
theorem After.step_other (h : After env id tag edits c i e) (htags : env.TagsDiffer)
    (hfault : env.fault c.shared.calls = .none) :
    After env id tag edits ((backend env).act c (.step !i)) i e ∧
      ((backend env).act c (.step !i)).shared.db = c.shared.db := by
  by_cases hrun : c.threads (!i) = (edits !i).run env id tag
  · obtain ⟨p, hact, hp⟩ := h.other.act_run hrun hfault
    rw [hact]
    have hrefused : (edits !i).Waits env id tag p := by
      obtain hp | hp | ⟨a, hget, -, htag, -⟩ := hp
      · exact Or.inr (Or.inl hp)
      · exact Or.inr (Or.inr hp)
      · exact absurd htag (h.not_tagged htags hget)
    refine ⟨⟨⟨?_, h.other.nothing, h.other.healthy⟩, h.nothing, h.healthy, ?_, h.row, h.tagged,
      h.done⟩, rfl⟩
    · show (edits !i).Waits env id tag (Function.update c.threads (!i) p (!i))
      rw [Function.update_self]
      exact hrefused
    · show Function.update c.threads (!i) p i = _ ∨ Function.update c.threads (!i) p i = _
      rw [Function.update_of_ne (Bool.not_ne_self i).symm]
      exact h.program
  · rw [h.other.act_of_ne_run hrun]
    exact ⟨h, rfl⟩

/-- A call that has committed answers with the row it has written. -/
theorem After.step (h : After env id tag edits c i e)
    (hfault : env.fault c.shared.calls = .none) :
    After env id tag edits ((backend env).act c (.step i)) i e ∧
      ((backend env).act c (.step i)).shared.db = c.shared.db := by
  have hended : (c.threads i).ended = true →
      After env id tag edits ((backend env).act c (.step i)) i e ∧
        ((backend env).act c (.step i)).shared.db = c.shared.db := by
    intro hend
    rw [act_ended hend h.nothing h.healthy]
    exact ⟨h, rfl⟩
  obtain hp | hp := h.program
  · have hdone := h.done
    cases hedit : edits i with
    | update userId patch =>
        rw [hedit] at hp hdone
        obtain ⟨row, hget, -⟩ := hdone
        -- the refresh finds the row that was committed
        obtain ⟨rows, hrows⟩ : ∃ rows, rows =
            (c.shared.db.expenses.view i).rows.filter (fun a => a.id = e.id) := ⟨_, rfl⟩
        have hmem : row ∈ rows := by
          rw [hrows, Store.view_of_rollback_eq_self h.nothing.expenses]
          exact List.mem_filter.2 ⟨Table.mem_of_get hget, decide_eq_true (Table.key_of_get hget)⟩
        have hexec : (Stmt.selectExpenses [] (fun a => a.id = e.id)).exec
            (env.clock c.shared.calls) i c.shared.db = some (.ok rows, c.shared.db) := by
          rw [hrows]
          rfl
        have hprogram : c.threads i = (sql (.selectExpenses [] (fun a => a.id = e.id))).bind
            (fun rows => (refreshed rows).bind (fun _ => .ret ())) :=
          hp.trans (Prog.bind_assoc _ _ _)
        rw [act_perform hprogram (exec_sql_ok h.healthy hfault hexec)]
        refine ⟨⟨h.other.moved (Bool.not_ne_self i) h.other.nothing rfl, h.nothing, h.healthy,
          Or.inr ?_, h.row, h.tagged, h.done⟩, rfl⟩
        show Function.update c.threads i _ i = _
        rw [Function.update_self]
        cases rows with
        | nil => cases hmem
        | cons a as => rfl
    | delete userId =>
        rw [hedit] at hp
        exact hended (by rw [hp]; rfl)
  · exact hended (by rw [hp]; rfl)

/-! ### Runs -/

/-- Neither call has passed its check, or one of them has. -/
def Staged (env : Env) (id : UUID) (tag : String) (edits : Bool → Edit)
    (T : Table Expense UUID Expense.id) (c : TwoCalls) : Prop :=
  Before env id tag edits T c ∨ ∃ i, Passed env id tag edits T c i

/-- The condition on the steps of a run. -/
def StepsAlone (env : Env) (id : UUID) (tag : String) (edits : Bool → Edit) (c : TwoCalls) :
    Machine.Action Bool Empty → Prop
  | .step i => ReadsAlone env id tag edits c i
  | .kill _ => False
  | .event _ => True

variable {a : Machine.Action Bool Empty}

/-- Once a check has been passed it stays so, and the other call leaves the database. -/
theorem Passed.act (htags : env.TagsDiffer)
    (hrises : ∀ e ∈ T.rows, ∀ n, e.updatedAt < env.clock n)
    (hok : StepsAlone env id tag edits c a) (h : Passed env id tag edits T c i) :
    Passed env id tag edits T ((backend env).act c a) i ∧
      (a ≠ .step i → ((backend env).act c a).shared.db = c.shared.db) := by
  cases a with
  | event e => exact e.elim
  | kill j => exact hok.elim
  | step j =>
      have hok : ReadsAlone env id tag edits c j := hok
      by_cases hj : j = i
      · subst hj
        refine ⟨?_, fun hne => absurd rfl hne⟩
        obtain ⟨e, ws, hduring⟩ | ⟨e, hafter⟩ := h
        · exact hduring.step (hrises e (Table.mem_of_get hduring.row)) hok.faultless
        · exact Or.inr ⟨e, (hafter.step hok.faultless).1⟩
      · obtain rfl := Bool.eq_not_of_ne hj
        obtain ⟨e, ws, hduring⟩ | ⟨e, hafter⟩ := h
        · rw [hduring.step_other hok]
          exact ⟨Or.inl ⟨e, ws, hduring⟩, fun _ => rfl⟩
        · obtain ⟨hafter', hdb⟩ := hafter.step_other htags hok.faultless
          exact ⟨Or.inr ⟨e, hafter'⟩, fun _ => hdb⟩

/-- **One step**: the calls stay staged, and a call that has not passed its check by the end of it
leaves the database. -/
theorem Staged.act (htags : env.TagsDiffer)
    (hrises : ∀ e ∈ T.rows, ∀ n, e.updatedAt < env.clock n)
    (hok : StepsAlone env id tag edits c a) (h : Staged env id tag edits T c) :
    Staged env id tag edits T ((backend env).act c a) ∧
      ∀ j, (a = .step j → ((backend env).act c a).shared.db = c.shared.db) ∨
        Passed env id tag edits T ((backend env).act c a) j := by
  obtain hbefore | ⟨i, hpassed⟩ := h
  · cases a with
    | event e => exact e.elim
    | kill j => exact hok.elim
    | step i =>
        obtain ⟨hbefore', hdb⟩ | hpassed := hbefore.step hok
        · exact ⟨Or.inl hbefore', fun j => Or.inl (fun _ => hdb)⟩
        · refine ⟨Or.inr ⟨i, hpassed⟩, fun j => ?_⟩
          by_cases hj : i = j
          · subst hj
            exact Or.inr hpassed
          · exact Or.inl (fun heq => absurd (Machine.Action.step.inj heq) hj)
  · obtain ⟨hpassed', hdb⟩ := hpassed.act htags hrises hok
    refine ⟨Or.inr ⟨i, hpassed'⟩, fun j => ?_⟩
    by_cases hj : i = j
    · subst hj
      exact Or.inr hpassed'
    · refine Or.inl (fun heq => hdb (fun heq' => hj ?_))
      exact (Machine.Action.step.inj (heq'.symm.trans heq))

/-- A call that waits has not returned, and has been refused if it has ended. -/
theorem not_ret_of_waits {edit : Edit} {p : Service Unit} (h : edit.Waits env id tag p) :
    p ≠ .ret () := by
  rintro rfl
  obtain hp | hp | hp := h
  · have hended := Edit.run_not_ended env id tag edit
    rw [← hp] at hended
    cases hended
  · cases hp
  · cases hp

theorem refused_of_waits {edit : Edit} {err : PyExc}
    (h : edit.Waits env id tag (.raise err)) :
    err = .etagMismatch id ∨ err = .expenseNotFound id := by
  obtain hp | hp | hp := h
  · have hended := Edit.run_not_ended env id tag edit
    rw [← hp] at hended
    cases hended
  · exact Or.inl (Prog.raise.inj hp)
  · exact Or.inr (Prog.raise.inj hp)

/-- A call that has passed its check does not raise, and the other one waits. -/
theorem Passed.spec (h : Passed env id tag edits T c i) :
    (∀ err, c.threads i ≠ .raise err) ∧ (edits !i).Waits env id tag (c.threads !i) := by
  obtain ⟨e, ws, hduring⟩ | ⟨e, hafter⟩ := h
  · refine ⟨fun err herr => ?_, hduring.other.program⟩
    have hended := Edit.finish_not_ended e (edits i) ws
    rw [← hduring.program, herr] at hended
    cases hended
  · refine ⟨fun err herr => ?_, hafter.other.program⟩
    obtain hp | hp := hafter.program
    · rw [herr] at hp
      cases hedit : edits i with
      | update userId patch =>
          rw [hedit] at hp
          cases hp
      | delete userId =>
          rw [hedit] at hp
          cases hp
    · rw [herr] at hp
      cases hp

theorem Staged.oneSucceeds (h : Staged env id tag edits T c) : ¬∀ i, c.threads i = .ret () := by
  intro hret
  obtain hbefore | ⟨i, hpassed⟩ := h
  · exact not_ret_of_waits (hbefore.idle true).program (hret true)
  · exact not_ret_of_waits hpassed.spec.2 (hret _)

theorem Staged.refused (h : Staged env id tag edits T c) {err : PyExc}
    (herr : c.threads j = .raise err) : err = .etagMismatch id ∨ err = .expenseNotFound id := by
  obtain hbefore | ⟨i, hpassed⟩ := h
  · have hwaits := (hbefore.idle j).program
    rw [herr] at hwaits
    exact refused_of_waits hwaits
  · by_cases hj : j = i
    · subst hj
      exact absurd herr (hpassed.spec.1 err)
    · obtain rfl := Bool.eq_not_of_ne hj
      have hwaits := hpassed.spec.2
      rw [herr] at hwaits
      exact refused_of_waits hwaits

/-- **The tag prevents lost updates where reads are alone.**  In every run of the two calls, over
every order of their statements: no fault strikes, no call reads while the other one is between its
check and its commit, and what passes a check is changed by the call.  Then one call succeeds at
most, and the other one is refused and leaves the database. -/
theorem preventsLostUpdate_of_readsAlone {env : Env} {id : UUID} {tag : String}
    {edits : Bool → Edit} {w : World Bool} {as : List (Machine.Action Bool Empty)}
    (htags : env.TagsDiffer) (hidle : ∀ i, w.db.NothingOf i) (hhealthy : ∀ i, w.failed i = false)
    (hrises : ∀ e ∈ w.db.expenses.committed.rows, ∀ n, e.updatedAt < env.clock n)
    (hok : (backend env).Along (StepsAlone env id tag edits) (twoCalls env id tag edits w) as) :
    PreventsLostUpdate env id (twoCalls env id tag edits w) as := by
  have hstart : Staged env id tag edits w.db.expenses.committed (twoCalls env id tag edits w) :=
    Or.inl ⟨fun j => ⟨Or.inl rfl, hidle j, hhealthy j⟩, rfl⟩
  have hstep : ∀ c a, StepsAlone env id tag edits c a →
      Staged env id tag edits w.db.expenses.committed c →
      Staged env id tag edits w.db.expenses.committed ((backend env).act c a) :=
    fun c a ha h => (h.act htags hrises ha).1
  have hend := Machine.invariant_run hstep hok hstart
  refine ⟨hend.oneSucceeds, fun i err herr => hend.refused herr, fun i err herr => ?_⟩
  exact Machine.along_of_not_reached hstep
    (fun c a ha _ hpassed => (Passed.act htags hrises ha hpassed).1)
    (fun c a ha h => (h.act htags hrises ha).2 i) hok hstart
    (fun hpassed => hpassed.spec.1 err herr)

/-! ### Two amounts for one coffee -/

theorem tagsDiffer_quiet : Env.quiet.TagsDiffer where
  hash := fun _ _ h => h
  isoTimestamp := by
    intro a b h
    have hint : toString (a : ℤ) = toString (b : ℤ) := h
    exact Int.ofNat.inj (toString_int_injective hint)

/-- A coffee, last updated before anything is recorded. -/
def espresso : Expense :=
  ⟨5, 7, "Blue Bottle", .cents 450, "USD", .other, ⟨2026, 4, 1, isDate_firstOfApril⟩, none, none,
    .manual, 10, 10⟩

def espressoWorld : World Bool :=
  World.ofDb { Db.ofUsers [⟨7, "t"⟩] with
    expenses := Store.ofTable ⟨[espresso], List.nodup_singleton _⟩ }

/-- One call sets the amount to 5.00, the other one to 6.00. -/
def amountEdits (i : Bool) : Edit :=
  .update 7 ⟨none, some (some (.fin false (if i then 500 else 600) (-2))), none, none, none, none⟩

def espressoCalls : TwoCalls :=
  twoCalls Env.quiet 5 (computeEtag Env.quiet espresso) amountEdits espressoWorld

/-- Is the next operation a query of expenses? -/
def isRead : Service Unit → Bool
  | .call (.sql (.selectExpenses _ _)) _ => true
  | _ => false

theorem isRead_run (env : Env) (id : UUID) (tag : String) (edit : Edit) :
    isRead (edit.run env id tag) = true := by
  obtain ⟨f, hf, -⟩ := edit.run_eq_bind env id tag
  rw [hf]
  rfl

/-- A call between its check and its commit writes, or commits. -/
theorem not_isRead_of_inFlight {env : Env} {edit : Edit} {p : Service Unit} (h : edit.InFlight env p) :
    isRead p = false ∧ p.ended = false := by
  obtain ⟨e, ws, hws, rfl⟩ := h
  refine ⟨?_, Edit.finish_not_ended e edit ws⟩
  cases ws with
  | nil => rfl
  | cons s ws =>
      have hs : s ∈ edit.writes env e := hws.subset List.mem_cons_self
      cases edit with
      | update userId patch =>
          rw [Edit.writes, List.mem_append] at hs
          obtain hs | hs := hs
          · split at hs
            · cases hs
            · rw [List.mem_singleton.1 hs]
              rfl
          · obtain ⟨correction, -, rfl⟩ := Option.map_eq_some_iff.1 (Option.mem_toList.1 hs)
            rfl
      | delete userId =>
          rw [List.mem_singleton.1 hs]
          rfl

theorem applies_espresso (i : Bool) : (amountEdits i).Applies Env.quiet espresso := by
  refine ⟨?_, ?_, ?_⟩
  · cases i <;> decide +kernel
  · cases i
    · exact ⟨{ espresso with amount := .cents 600 }, by decide +kernel⟩
    · exact ⟨{ espresso with amount := .cents 500 }, by decide +kernel⟩
  · intro correction h
    cases h

/-- A test of the condition on a step of the two calls. -/
def readsAloneTest (c : TwoCalls) (i : Bool) : Bool :=
  (!isRead (c.threads i) || isRead (c.threads !i) || (c.threads !i).ended) &&
    c.shared.db.expenses.committed.rows.all (fun e =>
      e = espresso || computeEtag Env.quiet e ≠ computeEtag Env.quiet espresso)

theorem readsAlone_of_test {c : TwoCalls} {i : Bool} (h : readsAloneTest c i = true) :
    ReadsAlone Env.quiet 5 (computeEtag Env.quiet espresso) amountEdits c i := by
  rw [readsAloneTest, Bool.and_eq_true, List.all_eq_true] at h
  refine ⟨rfl, fun hrun hflight => ?_, fun _ e he _ htag => ?_⟩
  · obtain ⟨hread, hended⟩ := not_isRead_of_inFlight hflight
    have htest := h.1
    rw [hrun, isRead_run, hread, hended] at htest
    cases htest
  · have htest := h.2 e he
    simp only [htag, ne_eq, not_true_eq_false, decide_false, Bool.or_false,
      decide_eq_true_eq] at htest
    rw [htest]
    exact applies_espresso i

/-- One call after the other. -/
def inTurn : List (Machine.Action Bool Empty) :=
  [.step true, .step true, .step true, .step true, .step false, .step false]

theorem preventsLostUpdate_inTurn : PreventsLostUpdate Env.quiet 5 espressoCalls inTurn := by
  refine preventsLostUpdate_of_readsAlone tagsDiffer_quiet (fun _ => ⟨rfl, rfl, rfl, rfl, rfl⟩)
    (fun _ => rfl) ?_ ?_
  · intro e he n
    rw [List.mem_singleton.1 he]
    show 10 < 1000 + n
    omega
  · refine ⟨readsAlone_of_test ?_, readsAlone_of_test ?_, readsAlone_of_test ?_,
      readsAlone_of_test ?_, readsAlone_of_test ?_, readsAlone_of_test ?_, trivial⟩
    · decide +kernel
    · decide +kernel
    · decide +kernel
    · decide +kernel
    · decide +kernel
    · decide +kernel

/-- Both calls read before either of them writes. -/
def overlapping : List (Machine.Action Bool Empty) :=
  [.step true, .step false] ++ List.replicate 3 (.step true) ++ List.replicate 3 (.step false)

/-- Both calls succeed, and the second has overwritten what it has not read. -/
theorem not_preventsLostUpdate_overlapping :
    ¬PreventsLostUpdate Env.quiet 5 espressoCalls overlapping := by
  intro h
  have hboth : ∀ i, (((backend Env.quiet).run espressoCalls overlapping).threads i).returned? =
      some () := by
    decide +kernel
  exact h.oneSucceeds (fun i => Prog.eq_ret_of_returned? (hboth i))

end IfMatch

end SpendLens
