/-
# The sign of stored budget amounts

The schemas accept every positive decimal and the column keeps two places of it.
Sessions create, change and delete budgets interleaved; as long as no amount they are
given is below half a cent, every row any of them sees has a positive amount, and the
zero-amount arm of `spendRatio` is never taken.
-/
import SpendLens.BudgetService
import SpendLens.Steps

namespace SpendLens

open Machine

/-! ## Sessions -/

/-- A request a session of the budget endpoints serves. -/
inductive BudgetCall where
  | create (userId : UUID) (payload : BudgetCreate)
  | update (userId budgetId : UUID) (patch : BudgetUpdate)
  | delete (userId budgetId : UUID)
  | status (order : RowOrder) (userId : UUID) (today : Date)

namespace BudgetCall

/-- The program of a request. -/
def run : BudgetCall → Service Unit
  | create userId payload => do
      let _ ← createBudget userId payload
      return ()
  | update userId budgetId patch => do
      let _ ← updateBudget userId budgetId patch.toBudgetPatch
      return ()
  | delete userId budgetId => deleteBudget userId budgetId
  | status order userId today => do
      let _ ← budgetStatus order userId today
      return ()

/-- The amount a request asks to store. -/
def amount : BudgetCall → Option Decimal
  | create _ payload => some payload.amount
  | update _ _ patch => patch.amount.join
  | delete _ _ => none
  | status _ _ _ => none

end BudgetCall

/-- At least half a cent. -/
def HalfCent (d : Decimal) : Prop := ∀ q, d.value? = some q → 1 / 200 ≤ q

/-- The budget passes the comparison that guards the quotient of `spendRatio`. -/
def PositiveAmount (b : Budget) : Prop := b.amount.positive? = some true

/-- Every budget, committed or seen by a session, has a positive amount. -/
def PositiveBudgets {ι : Type} [DecidableEq ι] (db : Db ι) : Prop :=
  (∀ b ∈ db.budgets.committed.rows, PositiveAmount b) ∧
    ∀ t, ∀ b ∈ (db.budgets.view t).rows, PositiveAmount b

/-- A positive amount has a quotient, and the arm for the others is not taken. -/
theorem spendRatio_of_positive {b : Budget} (h : PositiveAmount b) (spent : Numeric) :
    spendRatio spent b.amount =
      .ok ((spent.quotient b.amount).map (fun q => max (toFloat (Rounding.roundSig 10 28 q)) 0)) := by
  unfold spendRatio
  rw [h]

/-! ## What a call writes -/

/-- The column makes a positive amount of the decimal, if it takes it. -/
def StoresPositive (d : Decimal) : Prop := ∀ a, d.toNumeric = some a → a.positive? = some true

/-- An accepted amount of at least half a cent stays positive. -/
theorem storesPositive_of_halfCent {d : Decimal} (hok : budgetAmountOk d = true)
    (hd : HalfCent d) : StoresPositive d := by
  intro a ha
  have hstore := storeAmount_of_budgetAmountOk hok
  rw [storeAmount_ok.2 ha] at hstore
  obtain ⟨coef, exp, rfl⟩ := exists_of_budgetAmountOk hok
  have hhalf : 1 / 200 ≤ Decimal.magnitude coef exp := hd _ rfl
  split at hstore
  · cases hstore
    rw [storedAmount, Decimal.value?, if_neg Bool.false_ne_true]
    simp only [Numeric.positive?, Option.some.injEq, decide_eq_true_eq]
    exact_mod_cast roundCents_pos_iff.2 hhalf
  · cases hstore

/-- The writes of sessions whose amounts stay positive. -/
def KeepsPositive : Op → Prop
  | .sql (.insertBudget b) => StoresPositive b.amount
  | .sql (.updateBudget _ cols) => ∀ d, BudgetColumn.amount (some d) ∈ cols → StoresPositive d
  | _ => True

/-- Assigning such amounts leaves the amount positive. -/
theorem positiveAmount_storeAll {b b' : Budget} {cols : List BudgetColumn}
    (hcols : ∀ d, BudgetColumn.amount (some d) ∈ cols → StoresPositive d)
    (h : storeAll BudgetColumn.store b cols = .ok b') (hb : PositiveAmount b) :
    PositiveAmount b' := by
  refine storeAll_preserves (P := PositiveAmount) (fun c hc r r' hr hstore => ?_) h hb
  cases c with
  | amount v =>
      obtain ⟨a, ha, rfl⟩ := Fallible.map_eq_ok.1 hstore
      cases v with
      | none => cases ha
      | some d => exact hcols d hc a (storeAmount_ok.1 ha)
  | category v | period v | alertThresholdPct v | active v =>
      obtain ⟨a, -, rfl⟩ := Fallible.map_eq_ok.1 hstore
      exact hr

section sessions

variable {ι : Type} [DecidableEq ι] {env : Env}

/-- **One step**: such an operation keeps the amounts positive. -/
theorem exec_positiveAmount {w w' : World ι} {i : ι} {o : Op} {r : Except PyExc o.Res}
    (h : exec env i o w = some (r, w')) (ho : KeepsPositive o)
    (hall : w.db.budgets.All PositiveAmount) : w'.db.budgets.All PositiveAmount := by
  refine exec_db (I := fun db => db.budgets.All PositiveAmount) (fun _ hdb => hdb.commit i)
    (fun _ hdb => hdb.rollback i) h (fun s a db heq hs => ?_) hall
  subst heq
  rcases Stmt.exec_budgets hs with heq | hw
  · rw [heq]
    exact hall
  · generalize db.budgets = st at hw
    cases hw with
    | insert b amount hamount hlock hnew hfree => exact hall.put i (ho amount hamount)
    | update id cols v v' hget hlock hstore hfree =>
        have hv' : PositiveAmount v' := positiveAmount_storeAll ho hstore (hall.view hget)
        exact hall.put i hv'
    | delete id v hget hlock => exact hall.del i id

/-! ## What a call may ask for -/

/-- A program that keeps stored amounts positive. -/
abbrev KeepingPositive {α : Type} (p : Service α) : Prop :=
  p.Respects KeepsPositive (fun _ _ => True) (fun _ => True) (fun _ => True)

theorem KeepingPositive.perform {o : Op} (h : KeepsPositive o) :
    KeepingPositive (Prog.perform o) :=
  Prog.Respects.perform h (fun _ _ => trivial) (fun _ _ => trivial)

theorem KeepingPositive.ofExcept {α : Type} (r : Except PyExc α) :
    KeepingPositive (Prog.ofExcept r) :=
  Prog.Respects.ofExcept (fun _ _ => trivial) (fun _ _ => trivial)

theorem KeepingPositive.bind {α β : Type} {p : Service α} {f : α → Service β}
    (hp : KeepingPositive p) (hf : ∀ a, KeepingPositive (f a)) : KeepingPositive (Prog.bind p f) :=
  Prog.Respects.bind hp (fun a _ => hf a)

theorem keepingPositive_getBudget (userId id : UUID) : KeepingPositive (getBudget userId id) := by
  refine KeepingPositive.bind (KeepingPositive.perform trivial) (fun rows => ?_)
  refine KeepingPositive.bind (asks_scalarOneOrNone rows) (fun found => ?_)
  cases found with
  | none => exact Prog.Respects.raise trivial
  | some budget => exact Prog.Respects.ret trivial

theorem keepingPositive_refreshBudget (id : UUID) : KeepingPositive (refreshBudget id) :=
  KeepingPositive.bind (KeepingPositive.perform trivial) asks_refreshed

theorem keepingPositive_budgetStatus (order : RowOrder) (userId : UUID) (today : Date) :
    KeepingPositive (budgetStatus order userId today) := by
  have hlist : KeepingPositive (listBudgets order userId false) :=
    KeepingPositive.bind (KeepingPositive.perform trivial) (fun _ => Prog.Respects.ret trivial)
  refine hlist.bind (fun budgets => ?_)
  dsimp only
  split
  · exact Prog.Respects.ret trivial
  · refine (KeepingPositive.ofExcept _).bind (fun bounds => ?_)
    refine KeepingPositive.bind (KeepingPositive.perform trivial) (fun rows => ?_)
    exact (KeepingPositive.ofExcept _).bind (fun items => Prog.Respects.ret trivial)

theorem keepingPositive_saveBudget {flush : Service Unit} (h : KeepingPositive flush) :
    KeepingPositive (saveBudget flush) := by
  have hbody : KeepingPositive (flush.bind (fun _ => commit)) :=
    h.bind (fun _ => KeepingPositive.perform trivial)
  refine Prog.Respects.handle hbody (fun e _ => ?_)
  split
  · exact KeepingPositive.bind (KeepingPositive.perform trivial) (fun _ => Prog.Respects.raise trivial)
  · exact Prog.Respects.raise trivial

/-- The assignments of a validated patch are of accepted amounts. -/
theorem amount_of_mem_columns {patch : BudgetUpdate} {d : Decimal}
    (h : BudgetColumn.amount (some d) ∈ patch.columns) : patch.amount = some (some d) := by
  simpa [BudgetPatch.columns] using h

/-- A request whose amount is at least half a cent keeps stored amounts positive. -/
theorem BudgetCall.keepingPositive (call : BudgetCall) (h : ∀ d, call.amount = some d → HalfCent d) :
    KeepingPositive call.run := by
  cases call with
  | create userId payload =>
      refine KeepingPositive.bind ?_ (fun _ => Prog.Respects.ret trivial)
      refine KeepingPositive.bind (KeepingPositive.perform trivial) (fun id => ?_)
      refine KeepingPositive.bind (keepingPositive_saveBudget (KeepingPositive.perform ?_))
        (fun _ => keepingPositive_refreshBudget id)
      exact storesPositive_of_halfCent payload.amount_ok (h _ rfl)
  | update userId budgetId patch =>
      refine KeepingPositive.bind ?_ (fun _ => Prog.Respects.ret trivial)
      refine KeepingPositive.bind (keepingPositive_getBudget userId budgetId) (fun budget => ?_)
      refine KeepingPositive.bind (keepingPositive_saveBudget ?_)
        (fun _ => keepingPositive_refreshBudget budget.id)
      unfold flushColumns
      simp only
      split
      · exact Prog.Respects.ret trivial
      · refine KeepingPositive.perform (fun d hd => ?_)
        have hset : patch.amount = some (some d) := amount_of_mem_columns (List.mem_filter.1 hd).1
        refine storesPositive_of_halfCent (patch.amount_ok d hset) (h d ?_)
        rw [BudgetCall.amount, hset]
        rfl
  | delete userId budgetId =>
      refine KeepingPositive.bind (keepingPositive_getBudget userId budgetId) (fun budget => ?_)
      exact KeepingPositive.bind (KeepingPositive.perform trivial)
        (fun _ => KeepingPositive.perform trivial)
  | status order userId today =>
      exact (keepingPositive_budgetStatus order userId today).bind (fun _ => Prog.Respects.ret trivial)

/-! ## Runs -/

/-- **Stored budget amounts stay positive.**  In every run from an empty table whose
requests ask for no amount below half a cent, every budget any session sees has a
positive amount. -/
theorem budgets_positive_of_halfCent (env : Env) (calls : ι → BudgetCall)
    (hcalls : ∀ i d, (calls i).amount = some d → HalfCent d) (w : World ι)
    (hw : w.db.budgets = Store.ofTable Table.empty) (actions : List (Action ι Empty)) :
    PositiveBudgets ((backend env).run ⟨fun i => (calls i).run, w⟩ actions).shared.db := by
  have hstart : w.db.budgets.All PositiveAmount := by
    rw [hw]
    refine ⟨fun k v hv => ?_, fun t k v hv => ?_⟩
    · cases hv
    · cases hv
  have hall : ((backend env).run ⟨fun i => (calls i).run, w⟩ actions).shared.db.budgets.All
      PositiveAmount :=
    (holds_run_of_respects (I := fun w : World ι => w.db.budgets.All PositiveAmount)
      (fun hinv hg hx => ⟨exec_positiveAmount hx hg hinv, trivial⟩)
      (fun hinv => hinv.rollback _) (fun {e} _ => e.elim) actions hstart
      (fun i => (calls i).keepingPositive (hcalls i))).1
  exact ⟨fun b hb => hall.1 b.id b (Table.get_of_mem hb), fun t b hb => hall.of_mem_view hb⟩

end sessions

/-- A budget of half a cent and a patch of it to the maximum, interleaved. -/
def halfCentCalls : Bool → BudgetCall
  | false => .create 7
      { category := .groceries, amount := .fin false 5 (-3)
        amount_ok := budgetAmountOk_iff.2 (by norm_num [Decimal.magnitude])
        alertThresholdPct_ok := thresholdOk_default }
  | true => .update 7 1000
      { amount := some (some maxBudgetAmount)
        amount_ok := fun d hd => by
          cases hd
          exact budgetAmountOk_iff.2 (by norm_num [Decimal.magnitude])
        alertThresholdPct_ok := thresholdOk_of_unset }

theorem budgets_positive_of_halfCent_sample :
    PositiveBudgets ((backend Env.quiet).run
      ⟨fun i => (halfCentCalls i).run, World.ofDb (Db.ofUsers [⟨7, "t"⟩])⟩
      [.step false, .step false, .step true, .step false, .step true, .step false]).shared.db := by
  refine budgets_positive_of_halfCent Env.quiet halfCentCalls (fun i d hd q hq => ?_) _ rfl _
  cases i with
  | false =>
      cases hd
      cases hq
      norm_num [Decimal.magnitude]
  | true =>
      cases hd
      cases hq
      norm_num [Decimal.magnitude]

/-- A budget of a tenth of a cent. -/
def tenthCentCall : BudgetCall :=
  .create 7
    { category := .groceries, amount := .fin false 1 (-3)
      amount_ok := budgetAmountOk_iff.2 (by norm_num [Decimal.magnitude])
      alertThresholdPct_ok := thresholdOk_default }

/-- The schema accepts a tenth of a cent, and the column stores it as nothing. -/
theorem not_positive_of_tenthCent :
    ¬ PositiveBudgets ((backend Env.quiet).run
      ⟨fun _ : Unit => tenthCentCall.run, World.ofDb (Db.ofUsers [⟨7, "t"⟩])⟩
      [.step (), .step (), .step ()]).shared.db := by
  intro h
  have hrows : ((backend Env.quiet).run
      ⟨fun _ : Unit => tenthCentCall.run, World.ofDb (Db.ofUsers [⟨7, "t"⟩])⟩
      [.step (), .step (), .step ()]).shared.db.budgets.committed.rows =
        [⟨1000, 7, .groceries, .cents 0, .monthly, 80, true, 1001, 1001⟩] := by
    decide +kernel
  have hzero := h.1 ⟨1000, 7, .groceries, .cents 0, .monthly, 80, true, 1001, 1001⟩
    (by rw [hrows]; exact List.mem_singleton_self _)
  cases hzero

end SpendLens
