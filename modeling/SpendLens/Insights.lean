/-
# Aggregate analytics

The monthly breakdown and the category trends.  A query with no `ORDER BY` may
return its rows in any order, which a `RowOrder` decides; `date_trunc` of a date is
a timestamp in the time zone of the database session, which the driver hands over in
UTC.
-/
import SpendLens.Statement
import SpendLens.Lib.Grouping

namespace SpendLens

open Grouping

/-! ## The database's choices -/

/-- An order the database returns rows in. -/
structure RowOrder where
  arrange : {α : Type} → List α → List α
  perm : ∀ {α : Type} (rows : List α), (arrange rows).Perm rows

/-- The order of the groups. -/
def RowOrder.asStored : RowOrder := ⟨id, fun rows => List.Perm.refl rows⟩

/-- Minutes the clocks of the database session are ahead of UTC, at midnight of a day. -/
abbrev Zone : Type := Date → ℤ

def Zone.utc : Zone := fun _ => 0

/-- `.date()` of a midnight in the session's time zone, in UTC. -/
def Zone.utcDate (zone : Zone) (d : Date) : Except PyExc Date :=
  if zone d ≤ 0 then .ok d
  else
    match d.addDays? (-1) with
    | some d => .ok d
    | none => .error .overflowError

/-! ## Months -/

/-- `date(year, month, day)`. -/
def pyDate (year month day : ℤ) : Except PyExc Date :=
  match Date.of? year.toNat month.toNat day.toNat with
  | some d => .ok d
  | none =>
      if year < 1 ∨ 9999 < year then .error (.valueError s!"year {year} is out of range")
      else if month < 1 ∨ 12 < month then .error (.valueError "month must be in 1..12")
      else .error (.valueError "day is out of range for month")

/-- The first of the month and the first of the next month. -/
def monthBounds (month : Date) : Except PyExc (Date × Date) :=
  let start := month.firstOfMonth
  let stop :=
    if start.month = 12 then pyDate (start.year + 1) 1 1
    else pyDate start.year (start.month + 1) 1
  stop.map (fun stop => (start, stop))

/-- The `while` loop of `monthsBack`. -/
def wrapMonth (year month : ℤ) : ℤ × ℤ :=
  if month ≤ 0 then wrapMonth (year - 1) (month + 12) else (year, month)
termination_by (1 - month).toNat
decreasing_by omega

/-- The first day of the month `n` months before `anchor`. -/
def monthsBack (anchor : Date) (n : ℕ) : Except PyExc Date :=
  let (year, month) := wrapMonth anchor.year (anchor.month - n)
  pyDate year month 1

/-- A first of a month that exists. -/
theorem pyDate_ok (year month : ℕ) (hy : 1 ≤ year ∧ year ≤ 9999) (hm : 1 ≤ month ∧ month ≤ 12) :
    ∃ d : Date, pyDate year month 1 = .ok d ∧ d.day = 1 ∧ d.monthIndex = 12 * year + month := by
  have hday := daysInMonth_ge year month
  have his : IsDate year month 1 := ⟨hy.1, hy.2, hm.1, hm.2, le_refl 1, by omega⟩
  refine ⟨⟨year, month, 1, his⟩, ?_, rfl, rfl⟩
  have hof : Date.of? (year : ℤ).toNat (month : ℤ).toNat (1 : ℤ).toNat =
      some ⟨year, month, 1, his⟩ := dif_pos his
  rw [pyDate, hof]

/-- The bounds of a month are the first days of it and of the next one. -/
theorem monthBounds_ok {d : Date} (h : d.monthIndex < 12 * 10000) :
    ∃ stop : Date, monthBounds d = .ok (d.firstOfMonth, stop) ∧ stop.day = 1 ∧
      stop.monthIndex = d.monthIndex + 1 := by
  obtain ⟨hy, hy', hm, hm', -, -⟩ := d.isDate
  have hmonth : d.firstOfMonth.month = d.month := rfl
  have hyear : d.firstOfMonth.year = d.year := rfl
  rw [Date.monthIndex] at h ⊢
  rw [monthBounds]
  simp only [hmonth, hyear]
  by_cases hlast : d.month = 12
  · have hnext := pyDate_ok (d.year + 1) 1 (by omega) (by omega)
    obtain ⟨stop, hstop, hday, hindex⟩ := hnext
    rw [if_pos hlast]
    push_cast at hstop
    refine ⟨stop, ?_, hday, by omega⟩
    rw [hstop]
    rfl
  · have hnext := pyDate_ok d.year (d.month + 1) (by omega) (by omega)
    obtain ⟨stop, hstop, hday, hindex⟩ := hnext
    rw [if_neg hlast]
    push_cast at hstop
    refine ⟨stop, ?_, hday, by omega⟩
    rw [hstop]
    rfl

/-- The loop keeps the month index and ends on a month of the year. -/
theorem wrapMonth_spec (year month : ℤ) (h : month ≤ 12) :
    12 * (wrapMonth year month).1 + (wrapMonth year month).2 = 12 * year + month ∧
      1 ≤ (wrapMonth year month).2 ∧ (wrapMonth year month).2 ≤ 12 := by
  induction year, month using wrapMonth.induct with
  | case1 year month hneg ih =>
      rw [wrapMonth, if_pos hneg]
      obtain ⟨hindex, hlow, hhigh⟩ := ih (by omega)
      refine ⟨?_, hlow, hhigh⟩
      rw [hindex]
      ring
  | case2 year month hpos =>
      rw [wrapMonth, if_neg hpos]
      refine ⟨rfl, ?_, h⟩
      show 1 ≤ month
      omega

/-- **Going back is subtraction on the month index.** -/
theorem monthsBack_ok (anchor : Date) {n : ℕ} (h : 13 + n ≤ anchor.monthIndex) :
    ∃ d : Date, monthsBack anchor n = .ok d ∧ d.day = 1 ∧
      d.monthIndex + n = anchor.monthIndex := by
  obtain ⟨hy, hy', hm, hm', -, -⟩ := anchor.isDate
  rw [Date.monthIndex] at h ⊢
  obtain ⟨hindex, hlow, hhigh⟩ := wrapMonth_spec anchor.year (anchor.month - n) (by omega)
  rw [monthsBack]
  rcases hwrap : wrapMonth anchor.year (anchor.month - n) with ⟨year, month⟩
  rw [hwrap] at hindex hlow hhigh
  simp only at hindex hlow hhigh ⊢
  obtain ⟨y, rfl⟩ := Int.eq_ofNat_of_zero_le (show 0 ≤ year by omega)
  obtain ⟨m, rfl⟩ := Int.eq_ofNat_of_zero_le (show 0 ≤ month by omega)
  obtain ⟨d, hd, hday, hmonth⟩ := pyDate_ok y m (by omega) (by omega)
  exact ⟨d, hd, hday, by omega⟩

/-! ## Monthly breakdown -/

/-- Per-category totals of one month. -/
structure CategoryTotal where
  category : ExpenseCategory
  total : Numeric
  count : ℕ
  average : Numeric
  deriving DecidableEq

/-- Single-month rollup, the biggest categories first. -/
structure MonthlyBreakdown where
  month : Date
  grandTotal : Numeric
  grandCount : ℕ
  items : List CategoryTotal
  deriving DecidableEq

/-- Is the row the user's and dated in `[start, stop)`? -/
def isSpentIn (userId : UUID) (start stop : Date) (e : Expense) : Bool :=
  e.userId = userId && start ≤ e.expenseDate && e.expenseDate < stop

/-- `SUM(amount)` -/
def sumAmount (rows : List Expense) : Numeric := (rows.map Expense.amount).sum

/-- The columns of a group of the breakdown. -/
def categoryTotal (g : ExpenseCategory × List Expense) : CategoryTotal where
  category := g.1
  total := sumAmount g.2
  count := g.2.length
  average := (sumAmount g.2).average g.2.length

/-- `ORDER BY sum(amount) DESC` -/
def biggestFirst (a b : CategoryTotal) : Bool := b.total.le a.total

/-- Per-category spend totals for a single calendar month. -/
def monthlyBreakdown (order : RowOrder) (userId : UUID) (month : Date) :
    Service MonthlyBreakdown := do
  let (start, stop) ← Prog.ofExcept (monthBounds month)
  let found ← sql (.selectExpenses [] (isSpentIn userId start stop))
  let items := (order.arrange ((groupBy Expense.category found).map categoryTotal)).mergeSort
    biggestFirst
  return {
    month := start
    grandTotal := (items.map CategoryTotal.total).sum
    grandCount := (items.map CategoryTotal.count).sum
    items := items }

/-! ## Trends -/

def defaultTrendsMonths : ℤ := 12

def maxTrendsMonths : ℤ := 60

/-- One (month, category) cell of the trend matrix. -/
structure TrendBucket where
  month : Date
  category : ExpenseCategory
  total : Numeric
  deriving DecidableEq

/-- Rolling spend per category, with a bucket for every month and category. -/
structure CategoryTrends where
  months : List Date
  categories : List ExpenseCategory
  buckets : List TrendBucket
  deriving DecidableEq

/-- A group of the trends, labelled as the driver hands it over. -/
def trendRow (zone : Zone) (g : (Date × ExpenseCategory) × List Expense) :
    Except PyExc ((Date × ExpenseCategory) × Numeric) :=
  (zone.utcDate g.1.1).map (fun month => ((month, g.1.2), sumAmount g.2))

/-- The month and the category of an expense. -/
def monthAndCategory (e : Expense) : Date × ExpenseCategory :=
  (e.expenseDate.firstOfMonth, e.category)

/-- `sorted(…, key=lambda c: c.value)` -/
def sortCategories (cs : List ExpenseCategory) : List ExpenseCategory :=
  cs.mergeSort (fun a b => a.value ≤ b.value)

/-- The dense grid, one row of buckets for each month. -/
def trendBuckets (months : List Date) (categories : List ExpenseCategory)
    (totals : Dict (Date × ExpenseCategory) Numeric) : List TrendBucket :=
  months.flatMap (fun month =>
    categories.map (fun category => ⟨month, category, totals.getD (month, category) 0⟩))

/-- Per-category totals for each of the last `months` months. -/
def categoryTrends (order : RowOrder) (zone : Zone) (userId : UUID) (anchor : Date)
    (months : ℤ) : Service CategoryTrends := do
  let months := (max 1 (min months maxTrendsMonths)).toNat
  let anchorFirst := anchor.firstOfMonth
  let windowStart ← Prog.ofExcept (monthsBack anchorFirst (months - 1))
  let (_, windowEnd) ← Prog.ofExcept (monthBounds anchorFirst)
  let bucketDates ← Prog.ofExcept ((List.range months).reverse.mapM (monthsBack anchorFirst))
  let found ← sql (.selectExpenses [] (isSpentIn userId windowStart windowEnd))
  let groups := order.arrange (groupBy monthAndCategory found)
  let seenCategories := sortCategories (groups.map (fun g => g.1.2)).dedup
  let totals ← Prog.ofExcept (groups.mapM (trendRow zone))
  return {
    months := bucketDates
    categories := seenCategories
    buckets := trendBuckets bucketDates seenCategories (Dict.ofPairs totals) }

end SpendLens
