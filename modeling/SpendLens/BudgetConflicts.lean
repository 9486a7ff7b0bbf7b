/-
# Conflicts of budgets

A budget conflicts with another one of its user in the same category and period.  The
service reports every integrity failure of the database as such a conflict.  For a
budget that is created, and for every patch, this is the exact condition under which the
report is right: the amount must fit the scale of the column, and a patch that conflicts
with nothing must not null a column.
-/
import SpendLens.BudgetAmounts

namespace SpendLens

open Machine

/-! ## Reachable tables -/

abbrev BudgetTable := Table Budget UUID Budget.id

/-- The tables that runs of the budget endpoints commit. -/
def ReachableBudgets (T : BudgetTable) : Prop :=
  ∃ (ι : Type) (_ : DecidableEq ι) (env : Env) (calls : ι → BudgetCall) (w : World ι)
    (actions : List (Action ι Empty)), w.db.budgets = Store.ofTable Table.empty ∧
      ((backend env).run ⟨fun i => (calls i).run, w⟩ actions).shared.db.budgets.committed = T

/-- **One budget per user, category and period** in every reachable table. -/
theorem ReachableBudgets.eq_of_periodKey {T : BudgetTable} (h : ReachableBudgets T) {a b : Budget}
    (ha : a ∈ T.rows) (hb : b ∈ T.rows) (hkey : a.periodKey = b.periodKey) : a = b := by
  obtain ⟨ι, _, env, calls, w, actions, hstart, hT⟩ := h
  have hunique : ((backend env).run ⟨fun i => (calls i).run, w⟩ actions).shared.db.budgets.UniqueOn
      Budget.periodKey := by
    refine (holds_run_of_respects (I := fun w : World ι => w.db.budgets.UniqueOn Budget.periodKey)
      (fun hinv _ hx => ⟨exec_uniqueBudgets hx hinv, trivial⟩) (fun hinv => hinv.rollback _)
      (fun {e} _ => e.elim) actions ?_ (fun i => Prog.respects_of_forall (fun _ => trivial)
        (fun _ => trivial) (fun _ => trivial) (calls i).run)).1
    show w.db.budgets.UniqueOn Budget.periodKey
    rw [hstart]
    exact Store.UniqueOn.ofTable (fun hu => by cases hu)
  have hid : a.id = b.id := hunique.committed (x := (a.userId, a.category, a.period))
    (by rw [hT]; exact Table.get_of_mem ha) (by rw [hT]; exact Table.get_of_mem hb) rfl hkey.symm
  exact Table.eq_of_mem_of_key ha hb hid

/-! ## What is to be reported -/

/-- Another budget of the user has the category and period of the new one. -/
def CreateConflict (T : BudgetTable) (userId : UUID) (payload : BudgetCreate) : Prop :=
  ∃ o ∈ T.rows, o.userId = userId ∧ o.category = payload.category ∧ o.period = payload.period

/-- Another budget of the user has the category and period the patch leads to. -/
def UpdateConflict (T : BudgetTable) (b : Budget) (patch : BudgetPatch) : Prop :=
  ∃ o ∈ T.rows, o.id ≠ b.id ∧ o.userId = b.userId ∧
    some o.category = patch.category.getD (some b.category) ∧
    some o.period = patch.period.getD (some b.period)

/-- The row carries what a new budget was given. -/
structure CreatedFrom (userId : UUID) (payload : BudgetCreate) (row : Budget) : Prop where
  userId : row.userId = userId
  category : row.category = payload.category
  amount : row.amount = storedAmount payload.amount
  period : row.period = payload.period
  alertThresholdPct : row.alertThresholdPct = payload.alertThresholdPct
  active : row.active = payload.active

/-- The row carries the fields of a patch, and what it had in the others. -/
structure PatchedFrom (b : Budget) (patch : BudgetPatch) (row : Budget) : Prop where
  id : row.id = b.id
  userId : row.userId = b.userId
  createdAt : row.createdAt = b.createdAt
  category : some row.category = patch.category.getD (some b.category)
  amount : some row.amount = patch.amount.elim (some b.amount) (Option.map storedAmount)
  period : some row.period = patch.period.getD (some b.period)
  alertThresholdPct :
    some row.alertThresholdPct = patch.alertThresholdPct.getD (some b.alertThresholdPct)
  active : some row.active = patch.active.getD (some b.active)

/-- A call raises the conflict exactly when there is one, and then leaves the table alone;
otherwise it returns a row that carries what it was given. -/
structure ReportsConflict (T : BudgetTable) (conflict : Prop) (carries : Budget → Prop)
    (outcome : Except PyExc Budget × World Unit) : Prop where
  raised : outcome.1 = .error .budgetAlreadyExists ↔ conflict
  unchanged : conflict → outcome.2.db.budgets = Store.ofTable T
  written : ¬conflict → ∃ row, outcome.1 = .ok row ∧ carries row ∧
    outcome.2.db.budgets = Store.ofTable (T.put row)

/-! ## What a patch leads to -/

/-- The column takes the amount of a patch, or is not asked to. -/
def ScaleOk (b : Budget) (patch : BudgetPatch) : Prop :=
  ∀ d, patch.amount = some (some d) → d.eq b.amount.toDecimal = true ∨ scaleOk d = true

/-- No field of the patch is an explicit `None`. -/
structure NullFree (patch : BudgetPatch) : Prop where
  category : patch.category ≠ some none
  amount : patch.amount ≠ some none
  period : patch.period ≠ some none
  alertThresholdPct : patch.alertThresholdPct ≠ some none
  active : patch.active ≠ some none

/-- The amount a patch leads to. -/
def patchedAmount (b : Budget) (patch : BudgetPatch) : Except PyExc Numeric :=
  patched (fun u => BudgetColumn.changes b (.amount u)) storeAmount b.amount patch.amount

/-- The row a patch leads to, or why there is none. -/
def resulting (b : Budget) (patch : BudgetPatch) : Except PyExc Budget := do
  let category ← storeSome (patch.category.getD (some b.category))
  let amount ← patchedAmount b patch
  let period ← storeSome (patch.period.getD (some b.period))
  let alertThresholdPct ← storeSome (patch.alertThresholdPct.getD (some b.alertThresholdPct))
  let active ← storeSome (patch.active.getD (some b.active))
  return { b with
    category := category, amount := amount, period := period
    alertThresholdPct := alertThresholdPct, active := active }

/-- **The assignments of a flush lead to the resulting row.** -/
theorem storeAll_columns (b : Budget) (patch : BudgetPatch) :
    storeAll BudgetColumn.store b (patch.columns.filter (BudgetColumn.changes b)) =
      resulting b patch := by
  -- one field after the other, on the row the fields before have led to
  have hlast : patch.columns.filter (BudgetColumn.changes b) =
      patch.columns.filter (BudgetColumn.changes b) ++ [] := (List.append_nil _).symm
  rw [hlast, BudgetPatch.columns, List.filter_append, List.filter_append, List.filter_append,
    List.filter_append, List.append_assoc, List.append_assoc, List.append_assoc,
    List.append_assoc, resulting, ← patched_storeSome, ← patched_storeSome, ← patched_storeSome,
    ← patched_storeSome]
  rw [storeAll_field b (fun c => { b with category := c }) (fun _ => rfl) rfl]
  refine bind_congr (fun c => ?_)
  let b₁ : Budget := { b with category := c }
  rw [storeAll_field b₁ (fun a => { b₁ with amount := a }) (fun _ => rfl) rfl]
  refine bind_congr (fun a => ?_)
  let b₂ : Budget := { b₁ with amount := a }
  rw [storeAll_field b₂ (fun q => { b₂ with period := q }) (fun _ => rfl) rfl]
  refine bind_congr (fun q => ?_)
  let b₃ : Budget := { b₂ with period := q }
  rw [storeAll_field b₃ (fun n => { b₃ with alertThresholdPct := n }) (fun _ => rfl) rfl]
  refine bind_congr (fun n => ?_)
  let b₄ : Budget := { b₃ with alertThresholdPct := n }
  rw [storeAll_field b₄ (fun x => { b₄ with active := x }) (fun _ => rfl) rfl]
  rfl

/-! ## Amounts of a patch -/

/-- The amount a patch leads to, if the column takes it. -/
theorem patchedAmount_of_scaleOk {b : Budget} {patch : BudgetUpdate}
    (h : ScaleOk b patch.toBudgetPatch) :
    patchedAmount b patch.toBudgetPatch =
      storeSome (patch.amount.elim (some b.amount) (Option.map storedAmount)) := by
  have hok := patch.amount_ok
  unfold patchedAmount
  cases hp : patch.amount with
  | none => rfl
  | some u =>
      cases u with
      | none => rfl
      | some d =>
          have hok : budgetAmountOk d = true := hok d hp
          show (if (!(d.eq b.amount.toDecimal)) = true then storeAmount (some d) else .ok b.amount) =
            .ok (storedAmount d)
          cases heq : d.eq b.amount.toDecimal with
          | true =>
              obtain ⟨coef, exp, rfl⟩ := exists_of_budgetAmountOk hok
              rw [storedAmount_of_eq heq]
              rfl
          | false =>
              have hscale : scaleOk d = true :=
                (h d hp).resolve_left (fun hc => Bool.false_ne_true (heq.symm.trans hc))
              rw [storeAmount_of_budgetAmountOk hok, if_pos hscale]
              rfl

/-- The amount of a patch the column does not take. -/
theorem patchedAmount_of_not_scaleOk {b : Budget} {patch : BudgetUpdate}
    (h : ¬ScaleOk b patch.toBudgetPatch) :
    patchedAmount b patch.toBudgetPatch = .error .dataError := by
  unfold ScaleOk at h
  push Not at h
  obtain ⟨d, hp, heq, hscale⟩ := h
  have hok : budgetAmountOk d = true := patch.amount_ok d hp
  unfold patchedAmount
  rw [hp]
  show (if (!(d.eq b.amount.toDecimal)) = true then storeAmount (some d) else .ok b.amount) = _
  rw [Bool.eq_false_iff.2 heq, storeAmount_of_budgetAmountOk hok, if_neg hscale]
  rfl

/-! ## The resulting row -/

/-- A patch without nulls leads to a row with its fields. -/
theorem resulting_of_nullFree {b : Budget} {patch : BudgetUpdate}
    (hscale : ScaleOk b patch.toBudgetPatch) (hnull : NullFree patch.toBudgetPatch) :
    ∃ row, resulting b patch.toBudgetPatch = .ok row ∧ PatchedFrom b patch.toBudgetPatch row := by
  obtain ⟨c, hc⟩ := exists_getD_of_ne hnull.category b.category
  obtain ⟨q, hq⟩ := exists_getD_of_ne hnull.period b.period
  obtain ⟨n, hn⟩ := exists_getD_of_ne hnull.alertThresholdPct b.alertThresholdPct
  obtain ⟨x, hx⟩ := exists_getD_of_ne hnull.active b.active
  have ha : ∃ a, patch.amount.elim (some b.amount) (Option.map storedAmount) = some a := by
    cases hp : patch.amount with
    | none => exact ⟨b.amount, rfl⟩
    | some u =>
        cases u with
        | none => exact absurd hp hnull.amount
        | some d => exact ⟨storedAmount d, rfl⟩
  obtain ⟨a, ha⟩ := ha
  refine ⟨{ b with category := c, amount := a, period := q, alertThresholdPct := n, active := x },
    ?_, ⟨rfl, rfl, rfl, hc.symm, ha.symm, hq.symm, hn.symm, hx.symm⟩⟩
  rw [resulting, patchedAmount_of_scaleOk hscale, hc, ha, hq, hn, hx]
  rfl

/-- A patch with a null violates a constraint. -/
theorem resulting_of_not_nullFree {b : Budget} {patch : BudgetUpdate}
    (hscale : ScaleOk b patch.toBudgetPatch) (hnull : ¬NullFree patch.toBudgetPatch) :
    resulting b patch.toBudgetPatch = .error .integrityError := by
  rw [resulting, patchedAmount_of_scaleOk hscale]
  cases hc : patch.category.getD (some b.category) with
  | none => rfl
  | some c =>
  cases ha : patch.amount.elim (some b.amount) (Option.map storedAmount) with
  | none => rfl
  | some a =>
  cases hq : patch.period.getD (some b.period) with
  | none => rfl
  | some q =>
  cases hn : patch.alertThresholdPct.getD (some b.alertThresholdPct) with
  | none => rfl
  | some n =>
  cases hx : patch.active.getD (some b.active) with
  | none => rfl
  | some x =>
      -- every column has a value, so that no field is null
      refine absurd ⟨?_, ?_, ?_, ?_, ?_⟩ hnull
      · intro hp
        rw [hp] at hc
        cases hc
      · intro hp
        rw [hp] at ha
        cases ha
      · intro hp
        rw [hp] at hq
        cases hq
      · intro hp
        rw [hp] at hn
        cases hn
      · intro hp
        rw [hp] at hx
        cases hx

/-- A patch whose amount is refused fails on it, unless a null category fails first. -/
theorem resulting_of_not_scaleOk {b : Budget} {patch : BudgetUpdate}
    (hscale : ¬ScaleOk b patch.toBudgetPatch) :
    resulting b patch.toBudgetPatch = .error .dataError ∨
      resulting b patch.toBudgetPatch = .error .integrityError ∧
        patch.category.getD (some b.category) = none := by
  rw [resulting, patchedAmount_of_not_scaleOk hscale]
  cases hc : patch.category.getD (some b.category) with
  | none => exact Or.inr ⟨rfl, rfl⟩
  | some c => exact Or.inl rfl

/-! ## Runs -/

section run

variable {env : Env} {T : BudgetTable} {w : World Unit}

/-- A session without uncommitted writes of budgets and without a failed statement. -/
structure BudgetSession (T : BudgetTable) (w : World Unit) : Prop where
  budgets : w.db.budgets = Store.ofTable T
  healthy : w.failed () = false

theorem BudgetSession.tick (h : BudgetSession T w) : BudgetSession T w.tick := ⟨h.budgets, h.healthy⟩

/-- A statement on budgets that is refused. -/
theorem BudgetSession.abort (h : BudgetSession T w) : (w.abort ()).tick.db.budgets = Store.ofTable T := by
  show w.db.budgets.rollback () = _
  rw [h.budgets]
  rfl

theorem run_saveBudget_ok {flush : Service Unit} {w' : World Unit} (hup : ∀ n, env.fault n = .none)
    (h : Prog.run (alone env) flush w = (.ok (), w')) (hf : w'.failed () = false) :
    Prog.run (alone env) (saveBudget flush) w = (.ok (), { w' with db := w'.db.commit () }.tick) := by
  refine Prog.run_handle_ok _ ((Prog.run_bind_ok _ h).trans ?_)
  rw [commit, Prog.run_perform, alone_commit env hf (hup _)]

/-- An integrity failure of the flush is reported as a conflict. -/
theorem run_saveBudget_integrity {flush : Service Unit} {w' : World Unit}
    (h : Prog.run (alone env) flush w = (.error .integrityError, w')) :
    Prog.run (alone env) (saveBudget flush) w =
      (.error .budgetAlreadyExists, (w'.close ()).tick) :=
  Prog.run_handle_error _ (Prog.run_bind_error _ h)

/-- Any other failure is let through. -/
theorem run_saveBudget_error {flush : Service Unit} {w' : World Unit} {e : PyExc}
    (h : Prog.run (alone env) flush w = (.error e, w')) (he : e ≠ .integrityError) :
    Prog.run (alone env) (saveBudget flush) w = (.error e, w') := by
  refine (Prog.run_handle_error _ (Prog.run_bind_error _ h)).trans ?_
  cases e <;> first | rfl | exact absurd rfl he

theorem run_refreshBudget (hup : ∀ n, env.fault n = .none) (hw : BudgetSession T w) {b : Budget}
    (hb : b ∈ T.rows) : Prog.run (alone env) (refreshBudget b.id) w = (.ok b, w.tick) := by
  have hrows : T.rows.filter (fun v => decide (v.id = b.id)) = [b] := by
    have hfilter := Table.filter_key T b.id (fun _ => true)
    rw [Table.get_of_mem hb, Option.filter_some_pos rfl, Option.toList_some] at hfilter
    simpa only [Bool.and_true] using hfilter
  have hselect : (Stmt.selectBudgets [] (fun v => decide (v.id = b.id))).exec (env.clock w.calls) ()
      w.db = some (.ok [b], w.db) := by
    show some (select w.db.budgets () [] _, w.db) = _
    rw [hw.budgets, ← hrows]
    rfl
  exact Prog.run_perform_ok _ (alone_sql_ok env hw.healthy (hup _) hselect)

theorem run_getBudget (hup : ∀ n, env.fault n = .none) (hw : BudgetSession T w) {b : Budget}
    (hb : b ∈ T.rows) : Prog.run (alone env) (getBudget b.userId b.id) w = (.ok b, w.tick) := by
  have hrows : T.rows.filter (isBudget b.userId b.id) = [b] := by
    have hfilter := Table.filter_key T b.id (fun v => decide (v.userId = b.userId))
    rw [Table.get_of_mem hb, Option.filter_some_pos (by simp), Option.toList_some] at hfilter
    exact hfilter
  have hselect : (Stmt.selectBudgets [] (isBudget b.userId b.id)).exec (env.clock w.calls) ()
      w.db = some (.ok [b], w.db) := by
    show some (select w.db.budgets () [] _, w.db) = _
    rw [hw.budgets, ← hrows]
    rfl
  exact Prog.run_perform_ok _ (alone_sql_ok env hw.healthy (hup _) hselect)

/-- A row that a flush has written is committed and read back. -/
theorem run_save_refresh (hup : ∀ n, env.fault n = .none) {flush : Service Unit} {row : Budget}
    {w' : World Unit} (h : Prog.run (alone env) flush w = (.ok (), w'))
    (hf : w'.failed () = false)
    (hput : w'.db.budgets.commit () = Store.ofTable (T.put row)) :
    ∃ w'', Prog.run (alone env) (saveBudget flush >>= fun _ => refreshBudget row.id) w =
      (.ok row, w'') ∧ w''.db.budgets = Store.ofTable (T.put row) := by
  have hidle : BudgetSession (T.put row) { w' with db := w'.db.commit () }.tick := ⟨hput, hf⟩
  have hmem : row ∈ (T.put row).rows := Table.mem_put.2 (Or.inl rfl)
  exact ⟨_, (Prog.run_bind_ok _ (run_saveBudget_ok hup h hf)).trans
    (run_refreshBudget hup hidle hmem), hidle.budgets⟩

/-! ### Creating -/

/-- The row of a new budget. -/
def newRow (id userId : UUID) (payload : BudgetCreate) (now : Timestamp) : Budget :=
  ⟨id, userId, payload.category, storedAmount payload.amount, payload.period,
    payload.alertThresholdPct, payload.active, now, now⟩

/-- The entry of the new budget is taken exactly if there is a conflict. -/
theorem createConflict_iff {userId : UUID} {payload : BudgetCreate} :
    CreateConflict T userId payload ↔
      T.rows.any (fun v => v.periodKey = some (userId, payload.category, payload.period)) = true := by
  simp only [CreateConflict, Budget.periodKey, List.any_eq_true, decide_eq_true_eq,
    Option.some.injEq, Prod.mk.injEq]

/-- What the database answers to the `INSERT` of a budget. -/
theorem exec_insertBudget (now : Timestamp) {db : Db Unit} (hdb : db.budgets = Store.ofTable T)
    {id : UUID} (userId : UUID) {payload : BudgetCreate} (hscale : scaleOk payload.amount = true)
    (hfresh : T.get id = none) :
    (Stmt.insertBudget ⟨id, userId, payload.category, payload.amount, payload.period,
      payload.alertThresholdPct, payload.active⟩).exec now () db =
      if T.rows.any (fun v => v.periodKey = some (userId, payload.category, payload.period)) then
        some (.error .integrityError, db)
      else some (.ok (), { db with
        budgets := (Store.ofTable T).stage () (.put (newRow id userId payload now)) }) := by
  have hinsert : insert (Store.ofTable T) () Budget.periodKey (newRow id userId payload now) =
      if T.rows.any (fun v => v.periodKey = some (userId, payload.category, payload.period)) then
        some (.error .integrityError, Store.ofTable T)
      else some (.ok (), (Store.ofTable T).stage () (.put (newRow id userId payload now))) := by
    have hview : (((Store.ofTable T).view ()).get (newRow id userId payload now).id).isSome = false := by
      show (T.get id).isSome = false
      rw [hfresh]
      rfl
    have hkey : (newRow id userId payload now).periodKey =
        some (userId, payload.category, payload.period) := rfl
    rw [insert, locked_unit, hview, Bool.false_or, Bool.false_or, hkey, Option.any_some,
      contended_unit, if_neg Bool.false_ne_true, Option.any_some]
    rfl
  simp only [Stmt.exec]
  rw [storeAmount_of_budgetAmountOk payload.amount_ok, if_pos hscale]
  show (insert db.budgets () Budget.periodKey (newRow id userId payload now)).map _ = _
  rw [hdb, hinsert]
  split
  · simp only [Option.map_some]
    rw [← hdb]
  · rfl

/-- **Creating reports a conflict exactly when there is one**, for an amount that fits the
column. -/
theorem create_reports (hup : ∀ n, env.fault n = .none) (hw : BudgetSession T w) {userId : UUID}
    {payload : BudgetCreate} (hfresh : T.get (env.uuid4 w.calls) = none)
    (hscale : scaleOk payload.amount = true) :
    ReportsConflict T (CreateConflict T userId payload) (CreatedFrom userId payload)
      (Prog.run (alone env) (createBudget userId payload) w) := by
  have hexec := exec_insertBudget (env.clock w.tick.calls) hw.tick.budgets userId hscale hfresh
  by_cases hconflict : CreateConflict T userId payload
  · rw [if_pos (createConflict_iff.1 hconflict)] at hexec
    have hflush := (Prog.run_perform _ _ _).trans
      (alone_sql_error env (w := w.tick) hw.healthy (hup _) hexec)
    have hrun : Prog.run (alone env) (createBudget userId payload) w = _ :=
      (Prog.run_perform_ok _ (alone_uuid4 env)).trans
        (Prog.run_bind_error _ (run_saveBudget_integrity hflush))
    rw [hrun]
    refine ⟨⟨fun _ => hconflict, fun _ => rfl⟩, fun _ => ?_, fun hno => absurd hconflict hno⟩
    show (w.db.budgets.rollback ()).rollback () = _
    rw [hw.budgets]
    rfl
  · rw [if_neg (fun h => hconflict (createConflict_iff.2 h))] at hexec
    have hflush := (Prog.run_perform _ _ _).trans
      (alone_sql_ok env (w := w.tick) hw.healthy (hup _) hexec)
    obtain ⟨w', hsaved, hdb⟩ := run_save_refresh (T := T) hup hflush hw.healthy rfl
    have hrun : Prog.run (alone env) (createBudget userId payload) w = _ :=
      (Prog.run_perform_ok _ (alone_uuid4 env)).trans hsaved
    rw [hrun]
    exact ⟨⟨fun h => (nomatch h), fun h => absurd h hconflict⟩, fun h => absurd h hconflict,
      fun _ => ⟨_, rfl, ⟨rfl, rfl, rfl, rfl, rfl, rfl⟩, hdb⟩⟩

/-- An amount the column has no room for is no conflict, but the call fails. -/
theorem create_fails (hup : ∀ n, env.fault n = .none) (hw : BudgetSession T w) (userId : UUID)
    {payload : BudgetCreate} (hscale : ¬scaleOk payload.amount = true) :
    (Prog.run (alone env) (createBudget userId payload) w).1 = .error .dataError := by
  have hexec : (Stmt.insertBudget ⟨env.uuid4 w.calls, userId, payload.category, payload.amount,
      payload.period, payload.alertThresholdPct, payload.active⟩).exec (env.clock w.tick.calls) ()
      w.tick.db = some (.error .dataError, w.tick.db) := by
    simp only [Stmt.exec]
    rw [storeAmount_of_budgetAmountOk payload.amount_ok, if_neg hscale]
  have hflush := (Prog.run_perform _ _ _).trans
    (alone_sql_error env (w := w.tick) hw.healthy (hup _) hexec)
  have hrun : Prog.run (alone env) (createBudget userId payload) w = _ :=
    (Prog.run_perform_ok _ (alone_uuid4 env)).trans
      (Prog.run_bind_error _ (run_saveBudget_error hflush (by decide)))
  rw [hrun]

/-! ### Patching -/

/-- What the database answers to the `UPDATE` of a budget. -/
theorem exec_updateBudget (now : Timestamp) {db : Db Unit} (hdb : db.budgets = Store.ofTable T)
    {b : Budget} (hb : b ∈ T.rows) (cols : List BudgetColumn) :
    (Stmt.updateBudget b.id cols).exec now () db =
      match storeAll BudgetColumn.store b cols with
      | .error e => some (.error e, db)
      | .ok row =>
          if row.periodKey ≠ b.periodKey ∧ ∃ o ∈ T.rows, o.periodKey = row.periodKey then
            some (.error .integrityError, db)
          else some (.ok (), { db with
            budgets := (Store.ofTable T).stage () (.put { row with id := b.id, updatedAt := now }) })
      := by
  have hview : ((Store.ofTable T).view ()).get b.id = some b := Table.get_of_mem hb
  simp only [Stmt.exec]
  rw [hdb, hview]
  simp only
  cases storeAll BudgetColumn.store b cols with
  | error e => rfl
  | ok row =>
      have hkey : row.periodKey = some (row.userId, row.category, row.period) := rfl
      have hdup : (Store.ofTable T).duplicate () Budget.periodKey
          (row.userId, row.category, row.period) = true ↔
            ∃ o ∈ T.rows, o.periodKey = row.periodKey := by
        show T.rows.any (fun o => decide (o.periodKey = row.periodKey)) = true ↔ _
        simp only [List.any_eq_true, decide_eq_true_eq]
      simp only
      rw [hkey, locked_unit, Bool.false_or, Option.any_some, Option.any_some, contended_unit,
        Bool.and_false, if_neg Bool.false_ne_true, ← hkey]
      simp only [Bool.and_eq_true, decide_eq_true_eq, hdup]

/-- The flush of a patch that leads to no row. -/
theorem run_flush_error (hup : ∀ n, env.fault n = .none) (hw : BudgetSession T w) {b : Budget}
    (hb : b ∈ T.rows) {patch : BudgetPatch} {e : PyExc} (h : resulting b patch = .error e) :
    Prog.run (alone env) (flushColumns BudgetColumn.changes
      (fun cols => sql (.updateBudget b.id cols)) b patch.columns) w =
        (.error e, (w.abort ()).tick) := by
  rw [← storeAll_columns] at h
  unfold flushColumns
  simp only
  split
  · rename_i hempty
    rw [List.isEmpty_iff.1 hempty] at h
    cases h
  · have hexec := exec_updateBudget (env.clock w.calls) hw.budgets hb
      (patch.columns.filter (BudgetColumn.changes b))
    rw [h] at hexec
    exact (Prog.run_perform _ _ _).trans (alone_sql_error env hw.healthy (hup _) hexec)

/-- The flush of a patch whose row has another category and period that are taken. -/
theorem run_flush_taken (hup : ∀ n, env.fault n = .none) (hw : BudgetSession T w) {b row : Budget}
    (hb : b ∈ T.rows) {patch : BudgetPatch} (h : resulting b patch = .ok row)
    (htaken : row.periodKey ≠ b.periodKey ∧ ∃ o ∈ T.rows, o.periodKey = row.periodKey) :
    Prog.run (alone env) (flushColumns BudgetColumn.changes
      (fun cols => sql (.updateBudget b.id cols)) b patch.columns) w =
        (.error .integrityError, (w.abort ()).tick) := by
  rw [← storeAll_columns] at h
  unfold flushColumns
  simp only
  split
  · rename_i hempty
    rw [List.isEmpty_iff.1 hempty] at h
    cases h
    exact absurd rfl htaken.1
  · have hexec := exec_updateBudget (env.clock w.calls) hw.budgets hb
      (patch.columns.filter (BudgetColumn.changes b))
    rw [h] at hexec
    have hexec := hexec.trans (if_pos htaken)
    exact (Prog.run_perform _ _ _).trans (alone_sql_error env hw.healthy (hup _) hexec)

/-- The flush of any other patch. -/
theorem run_flush_ok (hup : ∀ n, env.fault n = .none) (hw : BudgetSession T w) {b row : Budget}
    (hb : b ∈ T.rows) {patch : BudgetPatch} (h : resulting b patch = .ok row)
    (hfree : ¬(row.periodKey ≠ b.periodKey ∧ ∃ o ∈ T.rows, o.periodKey = row.periodKey)) :
    ∃ stamp w', Prog.run (alone env) (flushColumns BudgetColumn.changes
      (fun cols => sql (.updateBudget b.id cols)) b patch.columns) w = (.ok (), w') ∧
        w'.failed () = false ∧ w'.db.budgets.commit () =
          Store.ofTable (T.put { row with id := b.id, updatedAt := stamp }) := by
  rw [← storeAll_columns] at h
  unfold flushColumns
  simp only
  split
  · rename_i hempty
    rw [List.isEmpty_iff.1 hempty] at h
    cases h
    -- nothing is written, and the table has the row already
    refine ⟨b.updatedAt, w, rfl, hw.healthy, ?_⟩
    rw [hw.budgets, Table.put_of_mem hb]
    rfl
  · have hexec := exec_updateBudget (env.clock w.calls) hw.budgets hb
      (patch.columns.filter (BudgetColumn.changes b))
    rw [h] at hexec
    have hexec := hexec.trans (if_neg hfree)
    exact ⟨env.clock w.calls, _, (Prog.run_perform _ _ _).trans
      (alone_sql_ok env hw.healthy (hup _) hexec), hw.healthy, rfl⟩

/-- The entry a patch leads to belongs to another budget exactly if there is a conflict. -/
theorem updateConflict_iff (hT : ReachableBudgets T) {b row : Budget} (hb : b ∈ T.rows)
    {patch : BudgetPatch} (h : PatchedFrom b patch row) :
    UpdateConflict T b patch ↔
      row.periodKey ≠ b.periodKey ∧ ∃ o ∈ T.rows, o.periodKey = row.periodKey := by
  have hkey : ∀ o : Budget, o.periodKey = row.periodKey ↔ o.userId = b.userId ∧
      some o.category = patch.category.getD (some b.category) ∧
      some o.period = patch.period.getD (some b.period) := by
    intro o
    rw [← h.category, ← h.period, ← h.userId, Budget.periodKey, Budget.periodKey]
    simp only [Option.some.injEq, Prod.mk.injEq]
  simp only [UpdateConflict, ← hkey]
  constructor
  · rintro ⟨o, ho, hid, hkey⟩
    refine ⟨fun hsame => hid ?_, o, ho, hkey⟩
    rw [hT.eq_of_periodKey ho hb (hkey.trans hsame)]
  · rintro ⟨hne, o, ho, hkey⟩
    refine ⟨o, ho, fun hid => hne ?_, hkey⟩
    rw [← hkey, Table.eq_of_mem_of_key ho hb hid]

/-- **Patching reports a conflict exactly when there is one**, for a patch without nulls
whose amount fits the column. -/
theorem update_reports (hT : ReachableBudgets T) (hup : ∀ n, env.fault n = .none) (hw : BudgetSession T w)
    {b : Budget} (hb : b ∈ T.rows) {patch : BudgetUpdate}
    (hscale : ScaleOk b patch.toBudgetPatch) (hnull : NullFree patch.toBudgetPatch) :
    ReportsConflict T (UpdateConflict T b patch.toBudgetPatch) (PatchedFrom b patch.toBudgetPatch)
      (Prog.run (alone env) (updateBudget b.userId b.id patch.toBudgetPatch) w) := by
  obtain ⟨row, hrow, hpatched⟩ := resulting_of_nullFree hscale hnull
  have hiff := updateConflict_iff hT hb hpatched
  by_cases hconflict : UpdateConflict T b patch.toBudgetPatch
  · have hflush := run_flush_taken hup hw.tick hb hrow (hiff.1 hconflict)
    have hrun : Prog.run (alone env) (updateBudget b.userId b.id patch.toBudgetPatch) w = _ :=
      (Prog.run_bind_ok _ (run_getBudget hup hw hb)).trans
        (Prog.run_bind_error _ (run_saveBudget_integrity hflush))
    rw [hrun]
    refine ⟨⟨fun _ => hconflict, fun _ => rfl⟩, fun _ => ?_, fun hno => absurd hconflict hno⟩
    show (w.db.budgets.rollback ()).rollback () = _
    rw [hw.budgets]
    rfl
  · obtain ⟨stamp, w', hflush, hf, hput⟩ :=
      run_flush_ok hup hw.tick hb hrow (fun h => hconflict (hiff.2 h))
    obtain ⟨w'', hsaved, hdb⟩ := run_save_refresh hup hflush hf hput
    have hrun : Prog.run (alone env) (updateBudget b.userId b.id patch.toBudgetPatch) w = _ :=
      (Prog.run_bind_ok _ (run_getBudget hup hw hb)).trans hsaved
    rw [hrun]
    have hwritten : PatchedFrom b patch.toBudgetPatch { row with id := b.id, updatedAt := stamp } :=
      { hpatched with id := rfl }
    exact ⟨⟨fun h => (nomatch h), fun h => absurd h hconflict⟩, fun h => absurd h hconflict,
      fun _ => ⟨_, rfl, hwritten, hdb⟩⟩

/-- What a patch that leads to no row raises, and that it leaves the table alone. -/
theorem update_fails (hup : ∀ n, env.fault n = .none) (hw : BudgetSession T w) {b : Budget}
    (hb : b ∈ T.rows) {patch : BudgetPatch} :
    (resulting b patch = .error .integrityError →
      (Prog.run (alone env) (updateBudget b.userId b.id patch) w).1 = .error .budgetAlreadyExists ∧
      (Prog.run (alone env) (updateBudget b.userId b.id patch) w).2.db.budgets = Store.ofTable T) ∧
    (resulting b patch = .error .dataError →
      (Prog.run (alone env) (updateBudget b.userId b.id patch) w).1 = .error .dataError) := by
  constructor
  · intro h
    have hflush := run_flush_error hup hw.tick hb h
    have hrun : Prog.run (alone env) (updateBudget b.userId b.id patch) w = _ :=
      (Prog.run_bind_ok _ (run_getBudget hup hw hb)).trans
        (Prog.run_bind_error _ (run_saveBudget_integrity hflush))
    rw [hrun]
    refine ⟨rfl, ?_⟩
    show (w.db.budgets.rollback ()).rollback () = _
    rw [hw.budgets]
    rfl
  · intro h
    have hflush := run_flush_error hup hw.tick hb h
    have hrun : Prog.run (alone env) (updateBudget b.userId b.id patch) w = _ :=
      (Prog.run_bind_ok _ (run_getBudget hup hw hb)).trans
        (Prog.run_bind_error _ (run_saveBudget_error hflush (by decide)))
    rw [hrun]

/-- **When a budget conflict is reported exactly if there is one.**  On every reachable
table: a budget that is created, when its amount fits the scale of the column; a patch,
when its amount does and it has no explicit null, unless it runs into a conflict anyway. -/
theorem reportsConflict_iff (hT : ReachableBudgets T) (hup : ∀ n, env.fault n = .none)
    (hw : BudgetSession T w) :
    (∀ userId payload, T.get (env.uuid4 w.calls) = none →
      (ReportsConflict T (CreateConflict T userId payload) (CreatedFrom userId payload)
        (Prog.run (alone env) (createBudget userId payload) w) ↔
          scaleOk payload.amount = true)) ∧
    (∀ b ∈ T.rows, ∀ patch : BudgetUpdate,
      (ReportsConflict T (UpdateConflict T b patch.toBudgetPatch)
        (PatchedFrom b patch.toBudgetPatch)
        (Prog.run (alone env) (updateBudget b.userId b.id patch.toBudgetPatch) w) ↔
          ScaleOk b patch.toBudgetPatch ∧
            (NullFree patch.toBudgetPatch ∨ UpdateConflict T b patch.toBudgetPatch))) := by
  constructor
  · intro userId payload hfresh
    refine ⟨fun h => ?_, create_reports hup hw hfresh⟩
    by_contra hscale
    have hfail := create_fails hup hw userId hscale
    -- the failure is neither the report of a conflict nor a row
    by_cases hconflict : CreateConflict T userId payload
    · have hraised := h.raised.2 hconflict
      rw [hfail] at hraised
      cases hraised
    · obtain ⟨row, hrow, -⟩ := h.written hconflict
      rw [hfail] at hrow
      cases hrow
  · intro b hb patch
    constructor
    · intro h
      have hscale : ScaleOk b patch.toBudgetPatch := by
        by_contra hscale
        rcases resulting_of_not_scaleOk hscale with hres | ⟨hres, hnone⟩
        · have hfail := (update_fails hup hw hb).2 hres
          by_cases hconflict : UpdateConflict T b patch.toBudgetPatch
          · have hraised := h.raised.2 hconflict
            rw [hfail] at hraised
            cases hraised
          · obtain ⟨row, hrow, -⟩ := h.written hconflict
            rw [hfail] at hrow
            cases hrow
        · obtain ⟨o, -, -, -, hc, -⟩ := h.raised.1 ((update_fails hup hw hb).1 hres).1
          rw [hnone] at hc
          cases hc
      refine ⟨hscale, or_iff_not_imp_left.2 (fun hnull => h.raised.1 ?_)⟩
      exact ((update_fails hup hw hb).1 (resulting_of_not_nullFree hscale hnull)).1
    · rintro ⟨hscale, hok⟩
      by_cases hnull : NullFree patch.toBudgetPatch
      · exact update_reports hT hup hw hb hscale hnull
      · have hconflict := hok.resolve_left hnull
        obtain ⟨hraised, htable⟩ :=
          (update_fails hup hw hb).1 (resulting_of_not_nullFree hscale hnull)
        exact ⟨⟨fun _ => hconflict, fun _ => hraised⟩, fun _ => htable,
          fun hno => absurd hconflict hno⟩

end run

/-! ### A table of one budget -/

/-- A hundred a month for groceries. -/
def groceriesPayload : BudgetCreate where
  category := .groceries
  amount := .fin false 100 0
  amount_ok := budgetAmountOk_iff.2 (by norm_num [Decimal.magnitude])
  alertThresholdPct_ok := thresholdOk_default

def groceriesBudget : Budget := ⟨1000, 7, .groceries, .cents 10000, .monthly, 80, true, 1001, 1001⟩

def groceriesTable : BudgetTable := ⟨[groceriesBudget], by decide⟩

/-- The state after the three operations that have created the budget. -/
def groceriesWorld : World Unit :=
  { World.ofDb { Db.ofUsers [⟨7, "t"⟩] with budgets := Store.ofTable groceriesTable } with
    calls := 3 }

theorem reachable_groceries : ReachableBudgets groceriesTable :=
  ⟨Unit, inferInstance, Env.quiet, fun _ => .create 7 groceriesPayload,
    World.ofDb (Db.ofUsers [⟨7, "t"⟩]), [.step (), .step (), .step ()], rfl, by decide +kernel⟩

/-- A patch to another category. -/
def shoppingPatch : BudgetUpdate where
  category := some (some .shopping)
  amount_ok _ h := by cases h
  alertThresholdPct_ok := thresholdOk_of_unset

theorem reportsConflict_iff_sample :
    ReportsConflict groceriesTable (CreateConflict groceriesTable 7 groceriesPayload)
      (CreatedFrom 7 groceriesPayload)
      (Prog.run (alone Env.quiet) (createBudget 7 groceriesPayload) groceriesWorld) ∧
    ReportsConflict groceriesTable
      (UpdateConflict groceriesTable groceriesBudget shoppingPatch.toBudgetPatch)
      (PatchedFrom groceriesBudget shoppingPatch.toBudgetPatch)
      (Prog.run (alone Env.quiet) (updateBudget 7 1000 shoppingPatch.toBudgetPatch)
        groceriesWorld) := by
  have hw : BudgetSession groceriesTable groceriesWorld := ⟨rfl, rfl⟩
  have hup : ∀ n, Env.quiet.fault n = .none := fun _ => rfl
  have h := reportsConflict_iff reachable_groceries hup hw
  constructor
  · exact (h.1 7 groceriesPayload (by decide)).2 (by decide)
  · refine (h.2 groceriesBudget (List.mem_singleton_self _) shoppingPatch).2
      ⟨fun d hd => (nomatch hd), Or.inl ?_⟩
    constructor <;> decide

/-- A patch that nulls the flag. -/
def nullActivePatch : BudgetUpdate where
  active := some none
  amount_ok _ h := by cases h
  alertThresholdPct_ok := thresholdOk_of_unset

/-- The only budget of the table is patched with a null, and that is reported as a conflict. -/
theorem not_reportsConflict_of_null :
    ¬ReportsConflict groceriesTable
      (UpdateConflict groceriesTable groceriesBudget nullActivePatch.toBudgetPatch)
      (PatchedFrom groceriesBudget nullActivePatch.toBudgetPatch)
      (Prog.run (alone Env.quiet) (updateBudget 7 1000 nullActivePatch.toBudgetPatch)
        groceriesWorld) := by
  intro h
  have hraised : (Prog.run (alone Env.quiet) (updateBudget 7 1000 nullActivePatch.toBudgetPatch)
      groceriesWorld).1 = .error .budgetAlreadyExists := rfl
  obtain ⟨o, ho, hid, -⟩ := h.raised.1 hraised
  rw [List.mem_singleton.1 ho] at hid
  exact hid rfl

end SpendLens
