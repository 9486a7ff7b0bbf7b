/-
# Anomalies

Recent expenses against the baseline of their category: mean and sample deviation of
the baseline rows are computed exactly and cast to the money type, and the score of a row
is a quotient of two binary64 numbers.  A deviation or a score that is NaN is `none`.
-/
import SpendLens.BudgetService
import SpendLens.Lib.Statistics

namespace SpendLens

open Grouping Statistics

/-! ## Parameters -/

def defaultBaselineDays : ℤ := 180

def defaultLookbackDays : ℤ := 30

def defaultZThreshold : ℚ := 2

def minBaselineSamples : ℕ := 5

def maxAnomalyResults : ℕ := 50

/-- Query parameters within the bounds of the endpoint. -/
structure AnomalyQuery where
  baselineDays : ℤ
  lookbackDays : ℤ
  zThreshold : ℚ
  baseline_bounds : 30 ≤ baselineDays ∧ baselineDays ≤ 730
  lookback_bounds : 1 ≤ lookbackDays ∧ lookbackDays ≤ 180
  threshold_bounds : 1 / 2 ≤ zThreshold ∧ zThreshold ≤ 10

/-- The parameters of a request that names none. -/
def AnomalyQuery.default : AnomalyQuery where
  baselineDays := defaultBaselineDays
  lookbackDays := defaultLookbackDays
  zThreshold := defaultZThreshold
  baseline_bounds := by decide
  lookback_bounds := by decide
  threshold_bounds := by decide +kernel

/-! ## The baseline -/

/-- `stddev_samp(amount)`, squared and in square cents; `none` is NaN. -/
def variance (rows : List Expense) : Option ℚ :=
  if rows.any (fun e => e.amount = .nan) then none
  else some (sampleVariance (rows.map (fun e => e.amount.centsVal)))

/-- `HAVING count(*) >= 5 AND stddev_samp(amount) > 0`; NaN is greater than every number. -/
def isEstablished (rows : List Expense) : Bool :=
  minBaselineSamples ≤ rows.length && (variance rows).all (fun v => 0 < v)

/-- `CAST(avg(amount) AS NUMERIC(12, 2))`; the average of stored amounts fits the type. -/
def meanOf (rows : List Expense) : Numeric := (sumAmount rows).average rows.length

/-- `CAST(stddev_samp(amount) AS NUMERIC(12, 2))`, before the overflow check. -/
def deviationOf (rows : List Expense) : Numeric :=
  match variance rows with
  | none => .nan
  | some v => .cents (roundSqrt v)

/-- The numbers the money type holds. -/
def castMoney : Numeric → Except PyExc Numeric
  | .nan => .ok .nan
  | .cents n => if n.natAbs < 10 ^ 12 then .ok (.cents n) else .error .dataError

/-- One row of the baseline. -/
structure Baseline where
  category : ExpenseCategory
  mean : Numeric
  stddev : Numeric
  samples : ℕ
  deriving DecidableEq

/-- The columns of a group of the baseline. -/
def baselineRow (g : ExpenseCategory × List Expense) : Except PyExc Baseline :=
  (castMoney (deviationOf g.2)).map (fun stddev => ⟨g.1, meanOf g.2, stddev, g.2.length⟩)

/-- The common table expression `baseline`. -/
def baselineTable (rows : List Expense) : Except PyExc (List Baseline) :=
  ((groupBy Expense.category rows).filter (fun g => isEstablished g.2)).mapM baselineRow

/-! ## Scores -/

/-- `CAST(amount - mean AS FLOAT) / CAST(stddev AS FLOAT)`, which divides a number by zero
with an error, and anything else that is NaN without one. -/
def zScore (amount mean stddev : Numeric) : Except PyExc (Option ℚ) :=
  match amount - mean, stddev with
  | .cents d, .cents s =>
      if s = 0 then .error .dataError
      else .ok (some (toFloat (toFloat (d / 100) / toFloat (s / 100))))
  | _, _ => .ok none

/-- `>=` of the database: NaN is greater than every number. -/
def reaches (zThreshold : ℚ) (z : Option ℚ) : Bool := z.all (fun z => zThreshold ≤ z)

/-- One row of the anomaly response. -/
structure Anomaly where
  expenseId : UUID
  merchantName : String
  category : ExpenseCategory
  amount : Numeric
  expenseDate : Date
  zScore : Option ℚ
  baselineMean : Numeric
  baselineStddev : Numeric
  baselineSamples : ℕ
  deriving DecidableEq

/-- A row of the join with its score. -/
def scored (p : Expense × Baseline) : Except PyExc Anomaly :=
  (zScore p.1.amount p.2.mean p.2.stddev).map (fun z =>
    { expenseId := p.1.id
      merchantName := p.1.merchantName
      category := p.1.category
      amount := p.1.amount
      expenseDate := p.1.expenseDate
      zScore := z
      baselineMean := p.2.mean
      baselineStddev := p.2.stddev
      baselineSamples := p.2.samples })

/-- `ORDER BY z_score DESC`, NaN first. -/
def mostAnomalousFirst (a b : Anomaly) : Bool :=
  match a.zScore, b.zScore with
  | none, _ => true
  | some _, none => false
  | some y, some z => z ≤ y

/-! ## The report -/

/-- Response for `GET /insights/anomalies`. -/
structure AnomalyReport where
  lookbackStart : Date
  baselineStart : Date
  zThreshold : ℚ
  anomalies : List Anomaly
  deriving DecidableEq

/-- `d - timedelta(days=k)`. -/
def minusDays (d : Date) (k : ℤ) : Except PyExc Date :=
  match d.addDays? (-k) with
  | some d => .ok d
  | none => .error .overflowError

/-- Is the row the user's and dated in `[start, stop]`? -/
def isRecent (userId : UUID) (start stop : Date) (e : Expense) : Bool :=
  e.userId = userId && start ≤ e.expenseDate && e.expenseDate ≤ stop

/-- The rows of a period, each with the baseline of its category. -/
def joinBaseline (recent : List Expense) (baseline : List Baseline) : List (Expense × Baseline) :=
  recent.flatMap (fun e =>
    (baseline.filter (fun b => b.category = e.category)).map (fun b => (e, b)))

/-- The statement of `detectAnomalies` on the user's rows. -/
def anomalyRows (order : RowOrder) (userId : UUID) (baselineStart lookbackStart today : Date)
    (zThreshold : ℚ) (rows : List Expense) : Except PyExc (List Anomaly) := do
  let baseline ← baselineTable (rows.filter (isSpentIn userId baselineStart lookbackStart))
  let recent := rows.filter (isRecent userId lookbackStart today)
  let found ← (joinBaseline recent baseline).mapM scored
  let flagged := found.filter (fun a => reaches zThreshold a.zScore)
  return ((order.arrange flagged).mergeSort mostAnomalousFirst).take maxAnomalyResults

/-- Flag recent expenses that deviate from the per-category baseline. -/
def detectAnomalies (order : RowOrder) (userId : UUID) (today : Date) (baselineDays lookbackDays : ℤ)
    (zThreshold : ℚ) : Service AnomalyReport := do
  let baselineStart ← Prog.ofExcept (minusDays today baselineDays)
  let lookbackStart ← Prog.ofExcept (minusDays today lookbackDays)
  let rows ← sql (.selectExpenses [] (fun e => e.userId = userId))
  let anomalies ← Prog.ofExcept
    (anomalyRows order userId baselineStart lookbackStart today zThreshold rows)
  return {
    lookbackStart := lookbackStart
    baselineStart := baselineStart
    zThreshold := zThreshold
    anomalies := anomalies }

/-- An optional ISO date or the day of the clock. -/
def parseMonthOrToday (clock : Date) : Option String → Except String Date
  | none => .ok clock
  | some value =>
      match Date.fromisoformat value with
      | some d => .ok d
      | none => .error s!"Invalid ISO-8601 date: {value}"

/-- `GET /insights/anomalies`; the error is the detail of a 422. -/
def getAnomalies (order : RowOrder) (userId : UUID) (clock : Date) (today : Option String)
    (q : AnomalyQuery) : Except String (Service AnomalyReport) := do
  let target ← parseMonthOrToday clock today
  if q.baselineDays ≤ q.lookbackDays then
    throw "lookback_days must be smaller than baseline_days"
  else
    return detectAnomalies order userId target q.baselineDays q.lookbackDays q.zThreshold

/-- A request that is not refused is one of the service, with a baseline window that ends
before the lookback window starts. -/
theorem getAnomalies_eq_ok {order : RowOrder} {userId : UUID} {clock : Date}
    {today : Option String} {q : AnomalyQuery} {p : Service AnomalyReport}
    (h : getAnomalies order userId clock today q = .ok p) :
    ∃ target, parseMonthOrToday clock today = .ok target ∧ q.lookbackDays < q.baselineDays ∧
      p = detectAnomalies order userId target q.baselineDays q.lookbackDays q.zThreshold := by
  rw [getAnomalies] at h
  cases htarget : parseMonthOrToday clock today with
  | error detail =>
      rw [htarget] at h
      cases h
  | ok target =>
      rw [htarget] at h
      by_cases hdays : q.baselineDays ≤ q.lookbackDays
      · simp only [bind, Except.bind, if_pos hdays] at h
        cases h
      · simp only [bind, Except.bind, if_neg hdays] at h
        cases h
        exact ⟨target, rfl, lt_of_not_ge hdays, rfl⟩

end SpendLens
