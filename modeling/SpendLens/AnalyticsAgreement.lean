/-
# The analytics views agree

The trends, the monthly breakdown and the budget status are three queries with
windows, groupings and zero fillings of their own.  Each is described by the exact
sums of the user's rows of a month and a category, in whatever order the database
returns its rows, and the descriptions agree.
-/
import SpendLens.BudgetService
import SpendLens.Lib.Fallible
import Mathlib.Data.List.ProdSigma

namespace SpendLens

open Grouping Fallible

/-! ## Exact sums -/

/-- The user's rows of a month. -/
def monthRows (rows : List Expense) (userId : UUID) (i : ℕ) : List Expense :=
  rows.filter (fun e => e.userId = userId && e.expenseDate.monthIndex = i)

/-- The sum of the amounts of some rows, in cents. -/
def exactSum (rows : List Expense) : ℤ := (rows.map (fun e => e.amount.centsVal)).sum

/-- What the user spent on a category in a month, in cents. -/
def spend (rows : List Expense) (userId : UUID) (i : ℕ) (c : ExpenseCategory) : ℤ :=
  exactSum ((monthRows rows userId i).filter (fun e => e.category = c))

/-- The total of a category, zero if it has no item. -/
def MonthlyBreakdown.totalOf (m : MonthlyBreakdown) (c : ExpenseCategory) : Numeric :=
  ((m.items.find? (fun item => item.category = c)).map CategoryTotal.total).getD 0

/-- The trends of `n` months: consecutive first days of months that end at the anchor's, a
bucket for each of them and each category with spend, month by month, and exact totals. -/
structure TrendsOf (rows : List Expense) (userId : UUID) (anchor : Date) (n : ℕ)
    (t : CategoryTrends) : Prop where
  length_months : t.months.length = n
  months_first : ∀ d ∈ t.months, d.day = 1
  months_index : ∀ (i : ℕ) (h : i < t.months.length),
    t.months[i].monthIndex + n = anchor.monthIndex + i + 1
  categories_nodup : t.categories.Nodup
  mem_categories : ∀ c, c ∈ t.categories ↔
    ∃ e ∈ rows, e.userId = userId ∧ anchor.monthIndex < e.expenseDate.monthIndex + n ∧
      e.expenseDate.monthIndex ≤ anchor.monthIndex ∧ e.category = c
  grid : t.buckets.map (fun b => (b.month, b.category)) = t.months.product t.categories
  grid_nodup : (t.buckets.map (fun b => (b.month, b.category))).Nodup
  total : ∀ b ∈ t.buckets, b.total = .cents (spend rows userId b.month.monthIndex b.category)

/-- The breakdown of a month: one item for each category with spend, and exact totals. -/
structure BreakdownOf (rows : List Expense) (userId : UUID) (day : Date)
    (m : MonthlyBreakdown) : Prop where
  month : m.month = day.firstOfMonth
  grandTotal : m.grandTotal = .cents (exactSum (monthRows rows userId day.monthIndex))
  grandCount : m.grandCount = (monthRows rows userId day.monthIndex).length
  items_nodup : (m.items.map CategoryTotal.category).Nodup
  mem_items : ∀ c, c ∈ m.items.map CategoryTotal.category ↔
    ∃ e ∈ monthRows rows userId day.monthIndex, e.category = c
  total : ∀ item ∈ m.items,
    item.total = .cents (spend rows userId day.monthIndex item.category)

/-- The status of a budget: what was spent on its category, and what remains. -/
structure ItemOf (rows : List Expense) (today : Date) (b : Budget) (item : BudgetStatus) :
    Prop where
  budgetId : item.budgetId = b.id
  category : item.category = b.category
  amount : item.amount = b.amount
  spent : item.spent = .cents (spend rows b.userId today.monthIndex b.category)
  remaining : item.remaining = item.amount - item.spent

/-- Is it an active monthly budget of the user? -/
def Budget.Monitored (userId : UUID) (b : Budget) : Prop :=
  b.userId = userId ∧ b.active = true ∧ b.period = .monthly

/-- The report on a day: a status for each active monthly budget, and no other. -/
structure StatusReportOf (rows : List Expense) (budgets : List Budget) (userId : UUID)
    (today : Date) (r : BudgetStatusReport) : Prop where
  item : ∀ b ∈ budgets, b.Monitored userId → ∃ item ∈ r.items, ItemOf rows today b item
  only : ∀ item ∈ r.items, ∃ b ∈ budgets, b.Monitored userId ∧ ItemOf rows today b item

/-! ## Rows of a window -/

theorem mem_monthRows {rows : List Expense} {userId : UUID} {i : ℕ} {e : Expense} :
    e ∈ monthRows rows userId i ↔
      e ∈ rows ∧ e.userId = userId ∧ e.expenseDate.monthIndex = i := by
  simp [monthRows]

/-- The rows between two first days of months. -/
theorem isSpentIn_iff {userId : UUID} {start stop : Date} (hstart : start.day = 1)
    (hstop : stop.day = 1) (e : Expense) :
    isSpentIn userId start stop e = true ↔
      e.userId = userId ∧ start.monthIndex ≤ e.expenseDate.monthIndex ∧
        e.expenseDate.monthIndex < stop.monthIndex := by
  rw [isSpentIn, Bool.and_eq_true, Bool.and_eq_true, decide_eq_true_iff, decide_eq_true_iff,
    decide_eq_true_iff, Date.le_iff_of_day_one hstart, Date.lt_iff_of_day_one hstop, and_assoc]

/-- The rows of one month. -/
theorem filter_isSpentIn (rows : List Expense) (userId : UUID) {d stop : Date}
    (hstop : stop.day = 1) (hindex : stop.monthIndex = d.monthIndex + 1) :
    rows.filter (isSpentIn userId d.firstOfMonth stop) = monthRows rows userId d.monthIndex := by
  rw [monthRows]
  apply List.filter_congr
  intro e _
  rw [Bool.eq_iff_iff, isSpentIn_iff (Date.day_firstOfMonth d) hstop, Bool.and_eq_true,
    decide_eq_true_iff, decide_eq_true_iff, Date.monthIndex_firstOfMonth, hindex]
  constructor
  · rintro ⟨hu, hlow, hhigh⟩
    exact ⟨hu, by omega⟩
  · rintro ⟨hu, hmonth⟩
    exact ⟨hu, by omega, by omega⟩

/-- A sum over rows whose amounts are numbers. -/
theorem sumAmount_eq {rows : List Expense} (h : ∀ e ∈ rows, e.amount ≠ .nan) :
    sumAmount rows = .cents (exactSum rows) := by
  rw [sumAmount, Numeric.sum_eq, List.map_map, exactSum]
  · rfl
  · intro a ha
    obtain ⟨e, he, rfl⟩ := List.mem_map.1 ha
    exact h e he

/-! ## The three runs -/

section run

variable {env : Env} {w : World Unit}

/-- The expenses a session sees. -/
def World.seenExpenses (w : World Unit) : List Expense := (w.db.expenses.view ()).rows

/-- The budgets a session sees. -/
def World.seenBudgets (w : World Unit) : List Budget := (w.db.budgets.view ()).rows

/-- What a service run alone answers. -/
def answer {α : Type} (env : Env) (w : World Unit) (p : Service α) : Except PyExc α :=
  (Prog.run (alone env) p w).1

@[simp] theorem seenExpenses_tick (w : World Unit) : w.tick.seenExpenses = w.seenExpenses := rfl

theorem alone_selectExpenses (hdb : ∀ n, env.fault n = .none) (hf : w.failed () = false)
    (p : Expense → Bool) :
    alone env (.sql (.selectExpenses [] p)) w = (.ok (w.seenExpenses.filter p), w.tick) :=
  alone_sql_ok env hf (hdb _) rfl

theorem alone_selectBudgets (hdb : ∀ n, env.fault n = .none) (hf : w.failed () = false)
    (p : Budget → Bool) :
    alone env (.sql (.selectBudgets [] p)) w = (.ok (w.seenBudgets.filter p), w.tick) :=
  alone_sql_ok env hf (hdb _) rfl

/-- The run of a breakdown: its items are the groups of the month's rows, in some order. -/
theorem answer_monthlyBreakdown (hdb : ∀ n, env.fault n = .none) (hf : w.failed () = false)
    (order : RowOrder) (userId : UUID) {day : Date} (hday : day.monthIndex < 12 * 10000) :
    ∃ items : List CategoryTotal,
      answer env w (monthlyBreakdown order userId day) = .ok
        { month := day.firstOfMonth
          grandTotal := (items.map CategoryTotal.total).sum
          grandCount := (items.map CategoryTotal.count).sum
          items := items } ∧
      items.Perm ((groupBy Expense.category
        (monthRows w.seenExpenses userId day.monthIndex)).map categoryTotal) := by
  obtain ⟨stop, hbounds, hstop, hindex⟩ := monthBounds_ok hday
  refine ⟨_, ?_, (List.mergeSort_perm _ biggestFirst).trans (order.perm _)⟩
  rw [answer, monthlyBreakdown, hbounds]
  simp only [Prog.bind_eq, Prog.ofExcept_ok, Prog.bind_ret]
  rw [sql, Prog.run_perform_ok _ (alone_selectExpenses hdb hf _),
    filter_isSpentIn _ _ hstop hindex]
  rfl

/-- The run of the trends: the months, the groups of the window's rows in the order of the
database, and the grid made of them, unless a label of a group cannot be made. -/
theorem answer_categoryTrends (hdb : ∀ n, env.fault n = .none) (hf : w.failed () = false)
    (userId : UUID) {anchor : Date} {months : ℤ} {n : ℕ}
    (hclamp : (max 1 (min months maxTrendsMonths)).toNat = n)
    (hfirst : 12 + n ≤ anchor.monthIndex) (hlast : anchor.monthIndex < 12 * 10000) :
    ∃ (dates : List Date) (start stop : Date),
      List.Forall₂ (fun i d => d.day = 1 ∧ d.monthIndex + i = anchor.monthIndex)
        (List.range n).reverse dates ∧
      start.day = 1 ∧ start.monthIndex + n = anchor.monthIndex + 1 ∧
      stop.day = 1 ∧ stop.monthIndex = anchor.monthIndex + 1 ∧
      ∀ (order : RowOrder) (zone : Zone) (groups : List ((Date × ExpenseCategory) × _)),
        groups = order.arrange (groupBy monthAndCategory
          (w.seenExpenses.filter (isSpentIn userId start stop))) →
        answer env w (categoryTrends order zone userId anchor months) =
          (groups.mapM (trendRow zone)).map (fun totals =>
            { months := dates
              categories := sortCategories (groups.map (fun g => g.1.2)).dedup
              buckets := trendBuckets dates (sortCategories (groups.map (fun g => g.1.2)).dedup)
                (Dict.ofPairs totals) }) := by
  have hn : 1 ≤ n := by omega
  obtain ⟨start, hstart, hstart1, hstartIndex⟩ :=
    monthsBack_ok anchor.firstOfMonth (n := n - 1)
      (by rw [Date.monthIndex_firstOfMonth]; omega)
  obtain ⟨stop, hstop, hstop1, hstopIndex⟩ := monthBounds_ok (d := anchor.firstOfMonth) hlast
  rw [Date.monthIndex_firstOfMonth] at hstartIndex hstopIndex
  obtain ⟨dates, hdates, hall⟩ := mapM_ok (f := monthsBack anchor.firstOfMonth)
    (P := fun i d => d.day = 1 ∧ d.monthIndex + i = anchor.monthIndex)
    (l := (List.range n).reverse) (fun i hi => by
      have hi := List.mem_range.1 (List.mem_reverse.1 hi)
      exact monthsBack_ok anchor.firstOfMonth (by rw [Date.monthIndex_firstOfMonth]; omega))
  refine ⟨dates, start, stop, hall, hstart1, by omega, hstop1, hstopIndex, ?_⟩
  rintro order zone groups rfl
  rw [answer, categoryTrends]
  simp only [hclamp, hstart, hstop, hdates, Prog.bind_eq, Prog.ofExcept_ok, Prog.bind_ret]
  rw [sql, Prog.run_perform_ok _ (alone_selectExpenses hdb hf _)]
  generalize order.arrange (groupBy monthAndCategory _) = groups
  cases groups.mapM (trendRow zone) with
  | error ex => rfl
  | ok totals => rfl

/-- In UTC a group is labelled with its own month. -/
theorem mapM_trendRow_utc (groups : List ((Date × ExpenseCategory) × List Expense)) :
    groups.mapM (trendRow Zone.utc) = .ok (groups.map (fun g => (g.1, sumAmount g.2))) := by
  induction groups with
  | nil => rfl
  | cons g groups ih =>
      rw [List.mapM_cons, ih]
      rfl

/-- The spend of a budget's category, as the program accumulates it. -/
theorem getD_accumulate_spend (order : RowOrder) {rows : List Expense} {userId : UUID} {i : ℕ}
    {categories : List ExpenseCategory} {c : ExpenseCategory} (hc : c ∈ categories)
    (hfinite : ∀ e ∈ rows, e.userId = userId → e.amount ≠ .nan) :
    (Dict.accumulate Expense.category Expense.amount (order.arrange
        ((monthRows rows userId i).filter (fun e => categories.contains e.category)))).getD c 0 =
      .cents (spend rows userId i c) := by
  have hperm := (order.perm ((monthRows rows userId i).filter
    (fun e => categories.contains e.category))).filter (fun e => e.category = c)
  have hrows : ((monthRows rows userId i).filter (fun e => categories.contains e.category)).filter
      (fun e => e.category = c) = (monthRows rows userId i).filter (fun e => e.category = c) := by
    rw [List.filter_filter]
    apply List.filter_congr
    intro e _
    by_cases he : e.category = c
    · simp [he, hc]
    · simp [he]
  rw [hrows] at hperm
  rw [Dict.getD_accumulate, rowsOf, (hperm.map Expense.amount).sum_eq]
  apply sumAmount_eq
  intro e he
  obtain ⟨he, hu, -⟩ := mem_monthRows.1 (List.mem_of_mem_filter he)
  exact hfinite e he hu

/-- The alert of an item is the one its budget's threshold asks for. -/
def AlertOf (b : Budget) (item : BudgetStatus) : Prop :=
  ∃ ratio, spendRatio item.spent b.amount = .ok ratio ∧
    item.alertTriggered = alertReached ratio b.alertThresholdPct

/-- The status of a budget that is a number. -/
theorem statusOf_ok (spentByCategory : Grouping.Dict ExpenseCategory Numeric) (start stop : Date)
    {b : Budget} (h : b.amount ≠ .nan) :
    ∃ item, statusOf spentByCategory start stop b = .ok item ∧ item.budgetId = b.id ∧
      item.category = b.category ∧ item.amount = b.amount ∧
      item.spent = spentByCategory.getD b.category 0 ∧
      item.remaining = item.amount - item.spent ∧ AlertOf b item := by
  have hsome : ∃ ratio, spendRatio (spentByCategory.getD b.category 0) b.amount = .ok ratio :=
    spendRatio_ok h
  obtain ⟨ratio, hratio⟩ := hsome
  simp only [statusOf, hratio]
  exact ⟨_, rfl, rfl, rfl, rfl, rfl, rfl, ratio, hratio, rfl⟩

/-- The run of a status report, with its alerts. -/
theorem answer_budgetStatus_alerts (hdb : ∀ n, env.fault n = .none) (hf : w.failed () = false)
    (order : RowOrder) (userId : UUID) {today : Date} (hday : today.monthIndex < 12 * 10000)
    (hfinite : ∀ e ∈ w.seenExpenses, e.userId = userId → e.amount ≠ .nan)
    (hbudgets : ∀ b ∈ w.seenBudgets, b.userId = userId → b.amount ≠ .nan) :
    ∃ report, answer env w (budgetStatus order userId today) = .ok report ∧
      (∀ b ∈ w.seenBudgets, b.Monitored userId →
        ∃ item ∈ report.items, ItemOf w.seenExpenses today b item ∧ AlertOf b item) ∧
      ∀ item ∈ report.items, ∃ b ∈ w.seenBudgets, b.Monitored userId ∧
        ItemOf w.seenExpenses today b item ∧ AlertOf b item := by
  obtain ⟨stop, hbounds, hstop, hindex⟩ := monthBounds_ok hday
  obtain ⟨monthly, hmonthly⟩ : ∃ l, l = ((order.arrange
    (w.seenBudgets.filter (isBudgetOf userId false))).mergeSort byCategory).filter isMonthly :=
      ⟨_, rfl⟩
  have hmem : ∀ b, b ∈ monthly ↔ b ∈ w.seenBudgets ∧ b.Monitored userId := by
    intro b
    rw [hmonthly, List.mem_filter, List.mem_mergeSort, (order.perm _).mem_iff, List.mem_filter]
    simp [isBudgetOf, isMonthly, Budget.Monitored]
  rw [answer, budgetStatus, listBudgets]
  simp only [Prog.bind_eq, Prog.bind_assoc, Prog.pure_eq, Prog.bind_ret]
  rw [sql, Prog.run_perform_ok _ (alone_selectBudgets hdb hf _), ← hmonthly]
  by_cases hempty : monthly = []
  · rw [hempty, List.isEmpty_nil, if_pos rfl]
    rw [hempty] at hmem
    refine ⟨_, rfl, ?_, ?_⟩
    · intro b hb hmon
      exact absurd ((hmem b).2 ⟨hb, hmon⟩) List.not_mem_nil
    · intro item hitem
      exact absurd hitem List.not_mem_nil
  · have hne : monthly.isEmpty = false := List.isEmpty_eq_false_iff.2 hempty
    have hrows : w.tick.seenExpenses.filter (fun e => isSpentIn userId today.firstOfMonth stop e &&
        (monthly.map Budget.category).contains e.category) =
        (monthRows w.seenExpenses userId today.monthIndex).filter
          (fun e => (monthly.map Budget.category).contains e.category) := by
      rw [seenExpenses_tick, ← filter_isSpentIn _ _ hstop hindex, List.filter_filter]
      apply List.filter_congr
      intro e _
      exact Bool.and_comm _ _
    rw [hne, if_neg Bool.false_ne_true, hbounds]
    simp only [Prog.ofExcept_ok, Prog.bind_ret]
    have hfetch := alone_selectExpenses (w := w.tick) hdb hf (fun e =>
      isSpentIn userId today.firstOfMonth stop e &&
        (monthly.map Budget.category).contains e.category)
    rw [hrows] at hfetch
    rw [sql, Prog.run_perform_ok _ hfetch]
    obtain ⟨items, hitems, hall⟩ := mapM_ok (l := monthly)
      (P := fun b item => ItemOf w.seenExpenses today b item ∧ AlertOf b item)
      (f := statusOf (Dict.accumulate Expense.category Expense.amount (order.arrange
        ((monthRows w.seenExpenses userId today.monthIndex).filter
          (fun e => (monthly.map Budget.category).contains e.category)))) today.firstOfMonth stop)
      (fun b hb => by
        obtain ⟨hseen, hu, -, -⟩ := (hmem b).1 hb
        obtain ⟨item, hitem, hid, hcategory, hamount, hspent, hremaining, halert⟩ :=
          statusOf_ok _ today.firstOfMonth stop (hbudgets b hseen hu)
        refine ⟨item, hitem, ⟨hid, hcategory, hamount, ?_, hremaining⟩, halert⟩
        rw [hspent, hu]
        exact getD_accumulate_spend order (List.mem_map_of_mem hb) hfinite)
    obtain ⟨hleft, hright⟩ := exists_of_forall₂ hall
    rw [hitems]
    refine ⟨_, rfl, ?_, ?_⟩
    · intro b hb hmon
      exact hleft b ((hmem b).2 ⟨hb, hmon⟩)
    · intro item hitem
      obtain ⟨b, hb, hitem⟩ := hright item hitem
      exact ⟨b, ((hmem b).1 hb).1, ((hmem b).1 hb).2, hitem⟩

/-- The run of a status report. -/
theorem answer_budgetStatus (hdb : ∀ n, env.fault n = .none) (hf : w.failed () = false)
    (order : RowOrder) (userId : UUID) {today : Date} (hday : today.monthIndex < 12 * 10000)
    (hfinite : ∀ e ∈ w.seenExpenses, e.userId = userId → e.amount ≠ .nan)
    (hbudgets : ∀ b ∈ w.seenBudgets, b.userId = userId → b.amount ≠ .nan) :
    ∃ report, answer env w (budgetStatus order userId today) = .ok report ∧
      StatusReportOf w.seenExpenses w.seenBudgets userId today report := by
  obtain ⟨report, hreport, hitem, honly⟩ :=
    answer_budgetStatus_alerts hdb hf order userId hday hfinite hbudgets
  refine ⟨report, hreport, fun b hb hmon => ?_, fun item hmem => ?_⟩
  · obtain ⟨item, hmem, hof, -⟩ := hitem b hb hmon
    exact ⟨item, hmem, hof⟩
  · obtain ⟨b, hb, hmon, hof, -⟩ := honly item hmem
    exact ⟨b, hb, hmon, hof⟩

end run

/-! ## What the runs say -/

section descriptions

variable {rows : List Expense} {userId : UUID}

/-- Perform the grouping of a breakdown on exact sums. -/
theorem breakdownOf_items (hfinite : ∀ e ∈ rows, e.userId = userId → e.amount ≠ .nan)
    {day : Date} {items : List CategoryTotal}
    (hitems : items.Perm ((groupBy Expense.category
      (monthRows rows userId day.monthIndex)).map categoryTotal)) :
    BreakdownOf rows userId day
      { month := day.firstOfMonth
        grandTotal := (items.map CategoryTotal.total).sum
        grandCount := (items.map CategoryTotal.count).sum
        items := items } := by
  have hmonth : ∀ e ∈ monthRows rows userId day.monthIndex, e.amount ≠ .nan := by
    intro e he
    obtain ⟨he, hu, -⟩ := mem_monthRows.1 he
    exact hfinite e he hu
  have hcategories : (items.map CategoryTotal.category).Perm
      ((groupBy Expense.category (monthRows rows userId day.monthIndex)).map Prod.fst) := by
    have h := hitems.map CategoryTotal.category
    rw [List.map_map] at h
    exact h
  constructor
  · rfl
  · have hsum := (hitems.map CategoryTotal.total).sum_eq
    rw [List.map_map] at hsum
    show (items.map CategoryTotal.total).sum = _
    rw [hsum, ← sumAmount_eq hmonth, sumAmount, ← sum_groupBy Expense.category Expense.amount]
    rfl
  · have hcount := (hitems.map CategoryTotal.count).sum_eq
    rw [List.map_map] at hcount
    have hone : ∀ l : List Expense, (l.map (fun _ => 1)).sum = l.length := by
      intro l
      simp
    show (items.map CategoryTotal.count).sum = _
    rw [hcount, ← hone, ← sum_groupBy Expense.category (fun _ => 1)]
    simp only [hone]
    rfl
  · exact hcategories.nodup_iff.2 (nodup_keys_groupBy _ _)
  · intro c
    rw [hcategories.mem_iff, keys_groupBy, List.mem_dedup, List.mem_map]
  · intro item hitem
    obtain ⟨g, hg, rfl⟩ := List.mem_map.1 (hitems.mem_iff.1 hitem)
    have hrows := (mem_groupBy.1 hg).2
    show sumAmount g.2 = .cents (spend rows userId day.monthIndex g.1)
    rw [hrows, spend, rowsOf, sumAmount_eq]
    intro e he
    exact hmonth e (List.mem_of_mem_filter he)

/-- The total of a category, whether it has an item or not. -/
theorem BreakdownOf.totalOf_eq {day : Date} {m : MonthlyBreakdown}
    (h : BreakdownOf rows userId day m) (c : ExpenseCategory) :
    m.totalOf c = .cents (spend rows userId day.monthIndex c) := by
  rw [MonthlyBreakdown.totalOf]
  cases hfind : m.items.find? (fun item => item.category = c) with
  | some item =>
      have hitem := List.mem_of_find?_eq_some hfind
      have hc : item.category = c := by simpa using List.find?_some hfind
      rw [Option.map_some, Option.getD_some, h.total item hitem, hc]
  | none =>
      rw [List.find?_eq_none] at hfind
      have hnone : (monthRows rows userId day.monthIndex).filter (fun e => e.category = c) = [] := by
        rw [List.filter_eq_nil_iff]
        intro e he hc
        have hmem := (h.mem_items c).2 ⟨e, he, by simpa using hc⟩
        obtain ⟨item, hitem, hc⟩ := List.mem_map.1 hmem
        exact hfind item hitem (by simpa using hc)
      rw [Option.map_none, Option.getD_none, spend, hnone]
      rfl

/-- The rows of a cell of the grid are the rows of its month and category. -/
theorem rowsOf_cell {start stop m : Date} {c : ExpenseCategory} (hstart : start.day = 1)
    (hstop : stop.day = 1) (hm : m.day = 1) (hlow : start.monthIndex ≤ m.monthIndex)
    (hhigh : m.monthIndex < stop.monthIndex) :
    rowsOf monthAndCategory (rows.filter (isSpentIn userId start stop)) (m, c) =
      (monthRows rows userId m.monthIndex).filter (fun e => e.category = c) := by
  rw [rowsOf, monthRows, List.filter_filter, List.filter_filter]
  apply List.filter_congr
  intro e _
  rw [Bool.eq_iff_iff, Bool.and_eq_true, isSpentIn_iff hstart hstop, Bool.and_eq_true,
    Bool.and_eq_true, decide_eq_true_iff, decide_eq_true_iff, decide_eq_true_iff,
    decide_eq_true_iff, monthAndCategory, Prod.mk.injEq]
  constructor
  · rintro ⟨⟨hmonth, hc⟩, hu, -, -⟩
    have hindex : e.expenseDate.monthIndex = m.monthIndex := by
      rw [← hmonth, Date.monthIndex_firstOfMonth]
    exact ⟨hc, hu, hindex⟩
  · rintro ⟨hc, hu, hindex⟩
    exact ⟨⟨(Date.eq_firstOfMonth hm hindex.symm).symm, hc⟩, hu, by omega, by omega⟩

/-- The grid of the trends has exact sums. -/
theorem trendsOf_groups (hfinite : ∀ e ∈ rows, e.userId = userId → e.amount ≠ .nan)
    {anchor start stop : Date} {n : ℕ} {months : List Date}
    {groups : List ((Date × ExpenseCategory) × List Expense)}
    (hmonths : List.Forall₂ (fun i d => d.day = 1 ∧ d.monthIndex + i = anchor.monthIndex)
      (List.range n).reverse months)
    (hstart : start.day = 1) (hstartIndex : start.monthIndex + n = anchor.monthIndex + 1)
    (hstop : stop.day = 1) (hstopIndex : stop.monthIndex = anchor.monthIndex + 1)
    (hgroups : groups.Perm (groupBy monthAndCategory (rows.filter (isSpentIn userId start stop)))) :
    TrendsOf rows userId anchor n
      { months := months
        categories := sortCategories (groups.map (fun g => g.1.2)).dedup
        buckets := trendBuckets months (sortCategories (groups.map (fun g => g.1.2)).dedup)
          (Dict.ofPairs (groups.map (fun g => (g.1, sumAmount g.2)))) } := by
  have hlength : months.length = n := by
    rw [← hmonths.length_eq, List.length_reverse, List.length_range]
  have hindex : ∀ (i : ℕ) (h : i < months.length),
      months[i].day = 1 ∧ months[i].monthIndex + n = anchor.monthIndex + i + 1 := by
    intro i h
    obtain ⟨hday, hsum⟩ := hmonths.get (by rw [hmonths.length_eq]; exact h) h
    simp only [List.get_eq_getElem, List.getElem_reverse, List.getElem_range,
      List.length_range] at hday hsum
    exact ⟨hday, by omega⟩
  have hfirst : ∀ d ∈ months, d.day = 1 ∧ start.monthIndex ≤ d.monthIndex ∧
      d.monthIndex < stop.monthIndex := by
    intro d hd
    obtain ⟨i, hi, rfl⟩ := List.getElem_of_mem hd
    obtain ⟨hday, hsum⟩ := hindex i hi
    exact ⟨hday, by omega, by omega⟩
  have hnodup : months.Nodup := by
    rw [List.nodup_iff_injective_get]
    intro i j hij
    obtain ⟨-, hi⟩ := hindex i i.isLt
    obtain ⟨-, hj⟩ := hindex j j.isLt
    have hij : months[i.val] = months[j.val] := hij
    rw [hij] at hi
    exact Fin.ext (by omega)
  obtain ⟨categories, hcategories⟩ : ∃ cs, cs = sortCategories (groups.map (fun g => g.1.2)).dedup :=
    ⟨_, rfl⟩
  have hcnodup : categories.Nodup := by
    rw [hcategories]
    exact (List.mergeSort_perm _ _).nodup_iff.2 (List.nodup_dedup _)
  have hgrid : (trendBuckets months categories
      (Dict.ofPairs (groups.map (fun g => (g.1, sumAmount g.2))))).map
        (fun b => (b.month, b.category)) = months.product categories := by
    rw [trendBuckets, List.map_flatMap]
    simp only [List.map_map]
    rfl
  rw [← hcategories]
  constructor
  · exact hlength
  · exact fun d hd => (hfirst d hd).1
  · exact fun i h => (hindex i h).2
  · exact hcnodup
  · intro c
    show c ∈ categories ↔ _
    rw [hcategories, sortCategories, List.mem_mergeSort, List.mem_dedup, List.mem_map]
    constructor
    · rintro ⟨g, hg, rfl⟩
      obtain ⟨⟨e, he, hkey⟩, -⟩ := mem_groupBy.1 (hgroups.mem_iff.1 hg)
      obtain ⟨he, hspent⟩ := List.mem_filter.1 he
      obtain ⟨hu, hlow, hhigh⟩ := (isSpentIn_iff hstart hstop e).1 hspent
      exact ⟨e, he, hu, by omega, by omega, congrArg Prod.snd hkey⟩
    · rintro ⟨e, he, hu, hlow, hhigh, rfl⟩
      have hmem : e ∈ rows.filter (isSpentIn userId start stop) := List.mem_filter.2
        ⟨he, (isSpentIn_iff hstart hstop e).2 ⟨hu, by omega, by omega⟩⟩
      have hgroup : (monthAndCategory e, rowsOf monthAndCategory
          (rows.filter (isSpentIn userId start stop)) (monthAndCategory e)) ∈ groups :=
        hgroups.mem_iff.2 (mem_groupBy.2 ⟨⟨e, hmem, rfl⟩, rfl⟩)
      exact ⟨_, hgroup, rfl⟩
  · exact hgrid
  · show (List.map _ (trendBuckets months categories _)).Nodup
    rw [hgrid]
    exact hnodup.product hcnodup
  · intro b hb
    obtain ⟨m, hm, hb⟩ := List.mem_flatMap.1 hb
    obtain ⟨c, -, rfl⟩ := List.mem_map.1 hb
    obtain ⟨hday, hlow, hhigh⟩ := hfirst m hm
    show Dict.getD _ (m, c) (sumAmount []) = .cents (spend rows userId m.monthIndex c)
    rw [Dict.getD_ofPairs_groupBy hgroups, rowsOf_cell hstart hstop hday hlow hhigh, spend,
      sumAmount_eq]
    intro e he
    obtain ⟨he, hu, -⟩ := mem_monthRows.1 (List.mem_of_mem_filter he)
    exact hfinite e he hu

end descriptions

/-! ## Agreement -/

/-- **The three views agree.**  The trends of `n` months, the breakdown of any month and
the budget report of any day have the exact sums of the user's rows, so that every
bucket of the trends has the total of its month's breakdown and the spend of a budget
on its category, with the database in UTC and whatever orders it returns its rows in. -/
theorem views_agree {env : Env} {w : World Unit} (hdb : ∀ n, env.fault n = .none)
    (hf : w.failed () = false) (userId : UUID)
    (hfinite : ∀ e ∈ w.seenExpenses, e.userId = userId → e.amount ≠ .nan)
    (hbudgets : ∀ b ∈ w.seenBudgets, b.userId = userId → b.amount ≠ .nan)
    (order : RowOrder) (anchor : Date) (n : ℕ) (hn : 1 ≤ n) (hn' : n ≤ 60)
    (hfirst : 12 + n ≤ anchor.monthIndex) (hlast : anchor.monthIndex < 12 * 10000) :
    ∃ trends, answer env w (categoryTrends order Zone.utc userId anchor n) = .ok trends ∧
      TrendsOf w.seenExpenses userId anchor n trends ∧
      ∀ (order' order'' : RowOrder) (day : Date), day.monthIndex < 12 * 10000 →
        ∃ breakdown report,
          answer env w (monthlyBreakdown order' userId day) = .ok breakdown ∧
          answer env w (budgetStatus order'' userId day) = .ok report ∧
          BreakdownOf w.seenExpenses userId day breakdown ∧
          StatusReportOf w.seenExpenses w.seenBudgets userId day report ∧
          ∀ bucket ∈ trends.buckets, bucket.month = day.firstOfMonth →
            bucket.total = breakdown.totalOf bucket.category ∧
            ∀ item ∈ report.items, item.category = bucket.category →
              bucket.total = item.spent := by
  have hclamp : (max 1 (min (n : ℤ) maxTrendsMonths)).toNat = n := by
    rw [maxTrendsMonths]
    omega
  obtain ⟨months, start, stop, hmonths, hstart, hstartIndex, hstop, hstopIndex, hanswer⟩ :=
    answer_categoryTrends (w := w) hdb hf userId hclamp hfirst hlast
  have htrends := trendsOf_groups hfinite hmonths hstart hstartIndex hstop hstopIndex
    (order.perm (groupBy monthAndCategory (w.seenExpenses.filter (isSpentIn userId start stop))))
  have hrun := hanswer order Zone.utc _ rfl
  rw [mapM_trendRow_utc] at hrun
  refine ⟨_, hrun, htrends, ?_⟩
  intro order' order'' day hday
  obtain ⟨items, hbreakdown, hitems⟩ := answer_monthlyBreakdown (w := w) hdb hf order' userId hday
  obtain ⟨report, hreport, hstatus⟩ :=
    answer_budgetStatus hdb hf order'' userId hday hfinite hbudgets
  have hexact := breakdownOf_items hfinite hitems
  refine ⟨_, report, hbreakdown, hreport, hexact, hstatus, ?_⟩
  intro bucket hbucket hmonth
  have htotal := htrends.total bucket hbucket
  rw [hmonth, Date.monthIndex_firstOfMonth] at htotal
  constructor
  · rw [htotal, hexact.totalOf_eq]
  · intro item hitem hcategory
    obtain ⟨b, -, ⟨hu, -, -⟩, hof⟩ := hstatus.only item hitem
    rw [htotal, hof.spent, hu, ← hof.category, hcategory]

/-- A purchase on the last day of a year and a refund in the next one, and a budget. -/
def yearEndWorld : World Unit :=
  let row (id : ℕ) (cents : ℤ) (category : ExpenseCategory) (date : Date) : Expense :=
    { id := Fin.ofNat _ id, userId := 7, merchantName := "Acme", amount := .cents cents,
      currency := "USD", category := category, expenseDate := date, description := none,
      receiptId := none, source := .manual, createdAt := 0, updatedAt := 0 }
  World.ofDb { Db.ofUsers [] with
    expenses := Store.ofTable ⟨[row 1 1050 .other ⟨2025, 12, 31, by decide⟩,
      row 2 (-300) .groceries ⟨2026, 1, 1, by decide⟩], by decide⟩
    budgets := Store.ofTable ⟨[⟨3, 7, .other, .cents 10000, .monthly, 80, true, 0, 0⟩],
      by decide⟩ }

/-- The two months, and the December of the breakdown and the report. -/
theorem views_agree_sample :
    ∃ trends breakdown report,
      answer Env.quiet yearEndWorld
        (categoryTrends RowOrder.asStored Zone.utc 7 ⟨2026, 1, 15, by decide⟩ 2) = .ok trends ∧
      answer Env.quiet yearEndWorld
        (monthlyBreakdown RowOrder.asStored 7 ⟨2025, 12, 4, by decide⟩) = .ok breakdown ∧
      answer Env.quiet yearEndWorld
        (budgetStatus RowOrder.asStored 7 ⟨2025, 12, 4, by decide⟩) = .ok report ∧
      trends.months.length = 2 ∧ breakdown.grandTotal = .cents 1050 ∧
      ∀ bucket ∈ trends.buckets, bucket.month = ⟨2025, 12, 1, by decide⟩ →
        bucket.total = breakdown.totalOf bucket.category := by
  obtain ⟨trends, htrends, hexact, hagree⟩ := views_agree (w := yearEndWorld)
    (fun n => (rfl : Env.quiet.fault n = .none)) rfl 7 (by decide) (by decide) RowOrder.asStored
    ⟨2026, 1, 15, by decide⟩ 2 (by decide) (by decide) (by decide) (by decide)
  obtain ⟨breakdown, report, hbreakdown, hreport, hof, -, hall⟩ :=
    hagree RowOrder.asStored RowOrder.asStored ⟨2025, 12, 4, by decide⟩ (by decide)
  refine ⟨trends, breakdown, report, htrends, hbreakdown, hreport, hexact.length_months, ?_,
    fun bucket hbucket hmonth => (hall bucket hbucket hmonth).1⟩
  rw [hof.grandTotal]
  decide

end SpendLens
