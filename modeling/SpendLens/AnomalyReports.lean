/-
# What the anomaly report says

The report is described row by row: the baseline rows of the row's own category decide
its verdict.  The guard of the query is on the exact deviation of the baseline and the
divisor is the deviation rounded to cents, which is zero below half a cent.
-/
import SpendLens.Anomalies
import SpendLens.AnalyticsAgreement

namespace SpendLens

open Grouping Statistics Fallible

/-! ## One category -/

/-- The baseline rows of a category. -/
def categoryBaseline (rows : List Expense) (userId : UUID) (baselineStart lookbackStart : Date)
    (c : ExpenseCategory) : List Expense :=
  rowsOf Expense.category (rows.filter (isSpentIn userId baselineStart lookbackStart)) c

/-- The deviation of the rows is at least half a cent, or NaN. -/
def AtLeastHalfACent (rows : List Expense) : Prop :=
  (∃ e ∈ rows, e.amount = .nan) ∨
    (rows.length : ℤ) * (rows.length - 1) ≤ 4 * spread (rows.map (fun e => e.amount.centsVal))

/-- The deviation fits the money type. -/
def DeviationFits (rows : List Expense) : Prop :=
  castMoney (deviationOf rows) = .ok (deviationOf rows)

theorem castMoney_eq_ok {a b : Numeric} (h : castMoney a = .ok b) : b = a := by
  cases a with
  | nan =>
      cases h
      rfl
  | cents n =>
      rw [castMoney] at h
      split at h
      · cases h
        rfl
      · cases h

/-- The row of a group, if its deviation fits. -/
def Baseline.of (g : ExpenseCategory × List Expense) : Baseline :=
  ⟨g.1, meanOf g.2, deviationOf g.2, g.2.length⟩

theorem baselineRow_eq_ok {g : ExpenseCategory × List Expense} {b : Baseline}
    (h : baselineRow g = .ok b) : b = Baseline.of g := by
  rw [baselineRow] at h
  cases hcast : castMoney (deviationOf g.2) with
  | error ex =>
      rw [hcast] at h
      cases h
  | ok s =>
      rw [hcast] at h
      cases h
      rw [castMoney_eq_ok hcast]
      rfl

theorem baselineRow_eq_ok_iff {g : ExpenseCategory × List Expense} :
    baselineRow g = .ok (Baseline.of g) ↔ DeviationFits g.2 := by
  rw [baselineRow, DeviationFits]
  cases hcast : castMoney (deviationOf g.2) with
  | error ex =>
      constructor
      · intro h
        cases h
      · intro h
        cases h
  | ok s =>
      rw [castMoney_eq_ok hcast]
      exact ⟨fun _ => rfl, fun _ => rfl⟩

/-- Four rows more than one are in a baseline. -/
theorem length_of_isEstablished {rows : List Expense} (h : isEstablished rows = true) :
    5 ≤ rows.length := by
  rw [isEstablished, Bool.and_eq_true, decide_eq_true_iff] at h
  exact h.1

/-- **The rounded deviation** of enough rows is zero exactly below half a cent. -/
theorem deviationOf_ne_zero_iff {rows : List Expense} (h : 2 ≤ rows.length) :
    deviationOf rows ≠ .cents 0 ↔ AtLeastHalfACent rows := by
  rw [deviationOf, AtLeastHalfACent, variance]
  by_cases hnan : ∃ e ∈ rows, e.amount = .nan
  · have hany : rows.any (fun e => e.amount = .nan) = true := by simpa using hnan
    rw [if_pos hany]
    exact ⟨fun _ => Or.inl hnan, fun _ => by simp⟩
  · have hany : ¬rows.any (fun e => e.amount = .nan) = true := by simpa using hnan
    rw [if_neg hany]
    simp only [or_iff_right hnan, ne_eq, Numeric.cents.injEq, Nat.cast_eq_zero]
    have hlength : (rows.map (fun e => e.amount.centsVal)).length = rows.length := List.length_map _
    rw [← ne_eq, ← Nat.pos_iff_ne_zero, roundSqrt_pos_iff, le_sampleVariance_iff (by omega), hlength]
    constructor
    · intro hle
      have hfour : ((rows.length : ℤ) * (rows.length - 1) : ℚ) ≤
          ((4 * spread (rows.map (fun e => e.amount.centsVal)) : ℤ) : ℚ) := by
        push_cast
        linarith
      exact_mod_cast hfour
    · intro hle
      have hfour : (((rows.length : ℤ) * (rows.length - 1) : ℤ) : ℚ) ≤
          ((4 * spread (rows.map (fun e => e.amount.centsVal)) : ℤ) : ℚ) := by
        exact_mod_cast hle
      push_cast at hfour
      linarith

/-! ## One row -/

/-- The score of a row, whatever its divisor. -/
def score (amount mean stddev : Numeric) : Option ℚ :=
  match amount - mean, stddev with
  | .cents d, .cents s => some (toFloat (toFloat (d / 100) / toFloat (s / 100)))
  | _, _ => none

/-- The division does not fail. -/
def Divides (amount mean stddev : Numeric) : Prop := amount - mean = .nan ∨ stddev ≠ .cents 0

theorem zScore_eq_ok {amount mean stddev : Numeric} {z : Option ℚ}
    (h : zScore amount mean stddev = .ok z) : z = score amount mean stddev := by
  unfold zScore at h
  unfold score
  cases hd : amount - mean with
  | nan =>
      rw [hd] at h
      cases h
      rfl
  | cents d =>
      rw [hd] at h
      cases stddev with
      | nan =>
          cases h
          rfl
      | cents s =>
          by_cases hs : s = 0
          · simp [hs] at h
          · simp only [if_neg hs] at h
            cases h
            rfl

theorem zScore_eq_ok_iff {amount mean stddev : Numeric} :
    zScore amount mean stddev = .ok (score amount mean stddev) ↔ Divides amount mean stddev := by
  unfold zScore score Divides
  cases hd : amount - mean with
  | nan => exact ⟨fun _ => Or.inl rfl, fun _ => rfl⟩
  | cents d =>
      cases stddev with
      | nan => exact ⟨fun _ => Or.inr (by simp), fun _ => rfl⟩
      | cents s =>
          by_cases hs : s = 0
          · subst hs
            simp
          · simp [hs]

/-- A row of the join with its score, whatever its divisor. -/
def Anomaly.of (p : Expense × Baseline) : Anomaly where
  expenseId := p.1.id
  merchantName := p.1.merchantName
  category := p.1.category
  amount := p.1.amount
  expenseDate := p.1.expenseDate
  zScore := score p.1.amount p.2.mean p.2.stddev
  baselineMean := p.2.mean
  baselineStddev := p.2.stddev
  baselineSamples := p.2.samples

theorem scored_eq_ok {p : Expense × Baseline} {a : Anomaly} (h : scored p = .ok a) :
    a = Anomaly.of p := by
  rw [scored] at h
  cases hz : zScore p.1.amount p.2.mean p.2.stddev with
  | error ex =>
      rw [hz] at h
      cases h
  | ok z =>
      rw [hz] at h
      cases h
      rw [zScore_eq_ok hz]
      rfl

theorem scored_eq_ok_iff {p : Expense × Baseline} :
    scored p = .ok (Anomaly.of p) ↔ Divides p.1.amount p.2.mean p.2.stddev := by
  rw [← zScore_eq_ok_iff, scored]
  cases hz : zScore p.1.amount p.2.mean p.2.stddev with
  | error ex =>
      constructor
      · intro h
        cases h
      · intro h
        cases h
  | ok z =>
      rw [zScore_eq_ok hz]
      exact ⟨fun _ => rfl, fun _ => rfl⟩

/-- What the report says of a row whose category has a baseline. -/
def verdictOf (e : Expense) (baseline : List Expense) : Anomaly :=
  Anomaly.of (e, Baseline.of (e.category, baseline))

section windows

variable (userId : UUID) (baselineStart lookbackStart today : Date) (zThreshold : ℚ)
  (rows : List Expense)

/-- Is the row recent, and is its category established? -/
def isCompared (e : Expense) : Bool :=
  isRecent userId lookbackStart today e &&
    isEstablished (categoryBaseline rows userId baselineStart lookbackStart e.category)

/-- Does the row reach the threshold against the baseline of its category? -/
def isFlagged (e : Expense) : Bool :=
  isCompared userId baselineStart lookbackStart today rows e &&
    reaches zThreshold
      (verdictOf e (categoryBaseline rows userId baselineStart lookbackStart e.category)).zScore

/-- The rows of the report, before they are ranked. -/
def flaggedRows : List Anomaly :=
  (rows.filter (isFlagged userId baselineStart lookbackStart today zThreshold rows)).map (fun e =>
    verdictOf e (categoryBaseline rows userId baselineStart lookbackStart e.category))

/-- No established category has a deviation too large for the money type, and no row is
divided by zero. -/
def Answerable : Prop :=
  (∀ c, isEstablished (categoryBaseline rows userId baselineStart lookbackStart c) = true →
    DeviationFits (categoryBaseline rows userId baselineStart lookbackStart c)) ∧
  ∀ e ∈ rows, isCompared userId baselineStart lookbackStart today rows e = true →
    Divides e.amount
      (meanOf (categoryBaseline rows userId baselineStart lookbackStart e.category))
      (deviationOf (categoryBaseline rows userId baselineStart lookbackStart e.category))

end windows

theorem flatMap_if {α β : Type} (p : α → Bool) (f : α → β) (l : List α) :
    l.flatMap (fun a => if p a = true then [f a] else []) = (l.filter p).map f := by
  induction l with
  | nil => rfl
  | cons a l ih =>
      rw [List.flatMap_cons, ih, List.filter_cons]
      by_cases h : p a = true
      · rw [if_pos h, if_pos h]
        rfl
      · rw [if_neg h, if_neg h]
        rfl

section statement

variable (order : RowOrder) (userId : UUID) (baselineStart lookbackStart today : Date)
  (zThreshold : ℚ) (rows : List Expense)

/-- The baseline table, of the categories of the baseline rows that pass the guard. -/
theorem baselineTable_eq_ok_iff {baseline : List Baseline} :
    baselineTable (rows.filter (isSpentIn userId baselineStart lookbackStart)) = .ok baseline ↔
      (∀ c, isEstablished (categoryBaseline rows userId baselineStart lookbackStart c) = true →
        DeviationFits (categoryBaseline rows userId baselineStart lookbackStart c)) ∧
      baseline = ((groupBy Expense.category
        (rows.filter (isSpentIn userId baselineStart lookbackStart))).filter
          (fun g => isEstablished g.2)).map Baseline.of := by
  rw [baselineTable, mapM_eq_ok_iff (fun _ _ => baselineRow_eq_ok)]
  simp only [baselineRow_eq_ok_iff]
  refine and_congr_left (fun _ => ?_)
  constructor
  · intro h c hc
    -- a category that passes the guard has rows
    have hne : categoryBaseline rows userId baselineStart lookbackStart c ≠ [] := by
      intro hempty
      have hlength := length_of_isEstablished hc
      rw [hempty] at hlength
      simp at hlength
    obtain ⟨e, he⟩ := List.exists_mem_of_ne_nil _ hne
    obtain ⟨he, hcategory⟩ := List.mem_filter.1 he
    exact h (c, _) (List.mem_filter.2
      ⟨mem_groupBy.2 ⟨⟨e, he, of_decide_eq_true hcategory⟩, rfl⟩, hc⟩)
  · intro h g hg
    obtain ⟨hg, hestablished⟩ := List.mem_filter.1 hg
    obtain ⟨-, hrows⟩ := mem_groupBy.1 hg
    rw [hrows] at hestablished ⊢
    exact h g.1 hestablished

/-- The join pairs a row with the baseline of its own category. -/
theorem joinBaseline_eq :
    joinBaseline (rows.filter (isRecent userId lookbackStart today))
        (((groupBy Expense.category
          (rows.filter (isSpentIn userId baselineStart lookbackStart))).filter
            (fun g => isEstablished g.2)).map Baseline.of) =
      (rows.filter (isCompared userId baselineStart lookbackStart today rows)).map (fun e =>
        (e, Baseline.of (e.category,
          categoryBaseline rows userId baselineStart lookbackStart e.category))) := by
  have hcompared : rows.filter (isCompared userId baselineStart lookbackStart today rows) =
      (rows.filter (isRecent userId lookbackStart today)).filter (fun e => isEstablished
        (categoryBaseline rows userId baselineStart lookbackStart e.category)) := by
    rw [List.filter_filter]
    apply List.filter_congr
    intro e _
    exact Bool.and_comm _ _
  rw [hcompared, joinBaseline]
  refine Eq.trans ?_ (flatMap_if (fun e : Expense => isEstablished
    (categoryBaseline rows userId baselineStart lookbackStart e.category)) _ _)
  congr 1
  funext e
  have hgroup := filter_groupBy_key Expense.category
    (rows.filter (isSpentIn userId baselineStart lookbackStart)) e.category
    (p := isEstablished) rfl
  rw [List.filter_map]
  show ((List.filter (fun g => decide (g.1 = e.category)) _).map Baseline.of).map _ = _
  rw [hgroup, ← categoryBaseline]
  split <;> rfl

/-- **The statement of the report**, row by row. -/
theorem anomalyRows_eq_ok_iff {anomalies : List Anomaly} :
    anomalyRows order userId baselineStart lookbackStart today zThreshold rows = .ok anomalies ↔
      Answerable userId baselineStart lookbackStart today rows ∧
        anomalies = ((order.arrange
          (flaggedRows userId baselineStart lookbackStart today zThreshold rows)).mergeSort
            mostAnomalousFirst).take maxAnomalyResults := by
  have hscored : ∀ found, (joinBaseline (rows.filter (isRecent userId lookbackStart today))
        (((groupBy Expense.category
          (rows.filter (isSpentIn userId baselineStart lookbackStart))).filter
            (fun g => isEstablished g.2)).map Baseline.of)).mapM scored = .ok found ↔
      (∀ e ∈ rows, isCompared userId baselineStart lookbackStart today rows e = true →
        Divides e.amount
          (meanOf (categoryBaseline rows userId baselineStart lookbackStart e.category))
          (deviationOf (categoryBaseline rows userId baselineStart lookbackStart e.category))) ∧
      found = (rows.filter (isCompared userId baselineStart lookbackStart today rows)).map (fun e =>
        verdictOf e (categoryBaseline rows userId baselineStart lookbackStart e.category)) := by
    intro found
    rw [joinBaseline_eq, mapM_eq_ok_iff (fun _ _ => scored_eq_ok), List.map_map]
    refine and_congr ?_ Iff.rfl
    simp only [List.forall_mem_map, List.mem_filter, and_imp, scored_eq_ok_iff]
    exact Iff.rfl
  have hflagged : ((rows.filter (isCompared userId baselineStart lookbackStart today rows)).map
      (fun e => verdictOf e (categoryBaseline rows userId baselineStart lookbackStart e.category))).filter
        (fun a => reaches zThreshold a.zScore) =
      flaggedRows userId baselineStart lookbackStart today zThreshold rows := by
    rw [List.filter_map, List.filter_filter, flaggedRows]
    congr 1
    apply List.filter_congr
    intro e _
    exact Bool.and_comm _ _
  rw [anomalyRows, Answerable, and_assoc, ← hflagged]
  cases htable : baselineTable (rows.filter (isSpentIn userId baselineStart lookbackStart)) with
  | error ex =>
      constructor
      · intro h
        cases h
      · rintro ⟨hfits, -, -⟩
        have hok := (baselineTable_eq_ok_iff userId baselineStart lookbackStart rows).2 ⟨hfits, rfl⟩
        rw [hok] at htable
        cases htable
  | ok baseline =>
      obtain ⟨hfits, rfl⟩ :=
        (baselineTable_eq_ok_iff userId baselineStart lookbackStart rows).1 htable
      cases hjoin : (joinBaseline (rows.filter (isRecent userId lookbackStart today))
        (((groupBy Expense.category
          (rows.filter (isSpentIn userId baselineStart lookbackStart))).filter
            (fun g => isEstablished g.2)).map Baseline.of)).mapM scored with
      | error ex =>
          constructor
          · intro h
            simp only [bind, Except.bind, hjoin] at h
            cases h
          · rintro ⟨-, hdivides, -⟩
            rw [(hscored _).2 ⟨hdivides, rfl⟩] at hjoin
            cases hjoin
      | ok found =>
          obtain ⟨hdivides, rfl⟩ := (hscored _).1 hjoin
          simp only [bind, Except.bind, hjoin, pure, Except.pure, Except.ok.injEq]
          constructor
          · intro h
            exact ⟨hfits, hdivides, h.symm⟩
          · rintro ⟨-, -, h⟩
            exact h.symm

end statement

/-! ## The report -/

/-- The comparison of the ranking is total and transitive. -/
theorem mostAnomalousFirst_total (a b : Anomaly) :
    (mostAnomalousFirst a b || mostAnomalousFirst b a) = true := by
  unfold mostAnomalousFirst
  cases a.zScore with
  | none => rfl
  | some y =>
      cases b.zScore with
      | none => rfl
      | some z =>
          rw [Bool.or_eq_true, decide_eq_true_iff, decide_eq_true_iff]
          exact le_total z y

theorem mostAnomalousFirst_trans (a b c : Anomaly) (hab : mostAnomalousFirst a b = true)
    (hbc : mostAnomalousFirst b c = true) : mostAnomalousFirst a c = true := by
  unfold mostAnomalousFirst at hab hbc ⊢
  revert hab hbc
  cases a.zScore with
  | none => exact fun _ _ => rfl
  | some x =>
      cases b.zScore with
      | none => exact fun h => absurd h Bool.false_ne_true
      | some y =>
          cases c.zScore with
          | none => exact fun _ h => h
          | some z =>
              intro hab hbc
              rw [decide_eq_true_iff] at hab hbc ⊢
              exact le_trans hbc hab

/-- The first rows of a ranking of some rows. -/
def RankedOf (all top : List Anomaly) (n : ℕ) : Prop :=
  ∃ ranked : List Anomaly, ranked.Perm all ∧
    ranked.Pairwise (fun a b => mostAnomalousFirst a b = true) ∧ top = ranked.take n

theorem rankedOf_mergeSort (order : RowOrder) (all : List Anomaly) (n : ℕ) :
    RankedOf all (((order.arrange all).mergeSort mostAnomalousFirst).take n) n :=
  ⟨_, (List.mergeSort_perm _ _).trans (order.perm all),
    List.pairwise_mergeSort mostAnomalousFirst_trans mostAnomalousFirst_total _, rfl⟩

/-- Below the cap nothing is cut off. -/
theorem RankedOf.perm_of_lt {all top : List Anomaly} {n : ℕ} (h : RankedOf all top n)
    (hlt : top.length < n) : top.Perm all := by
  obtain ⟨ranked, hperm, -, rfl⟩ := h
  rw [List.length_take] at hlt
  rw [List.take_of_length_le (by omega)]
  exact hperm

/-- The windows of a report start at days of the calendar. -/
def Windows (today : Date) (baselineDays lookbackDays : ℤ) (baselineStart lookbackStart : Date) :
    Prop :=
  today.addDays? (-baselineDays) = some baselineStart ∧
    today.addDays? (-lookbackDays) = some lookbackStart

theorem minusDays_eq_ok_iff {d d' : Date} {k : ℤ} :
    minusDays d k = .ok d' ↔ d.addDays? (-k) = some d' := by
  rw [minusDays]
  cases d.addDays? (-k) with
  | none => simp
  | some p => simp

section run

variable {env : Env} {w : World Unit}

/-- The expenses of a user a session sees. -/
def World.expensesOf (w : World Unit) (userId : UUID) : List Expense :=
  w.seenExpenses.filter (fun e => e.userId = userId)

/-- What the service answers, in terms of the windows and the statement. -/
theorem answer_detectAnomalies (hdb : ∀ n, env.fault n = .none) (hf : w.failed () = false)
    (order : RowOrder) (userId : UUID) (today : Date) (baselineDays lookbackDays : ℤ)
    (zThreshold : ℚ) (report : AnomalyReport) :
    answer env w (detectAnomalies order userId today baselineDays lookbackDays zThreshold) =
        .ok report ↔
      ∃ baselineStart lookbackStart anomalies,
        Windows today baselineDays lookbackDays baselineStart lookbackStart ∧
        anomalyRows order userId baselineStart lookbackStart today zThreshold
          (w.expensesOf userId) = .ok anomalies ∧
        report = ⟨lookbackStart, baselineStart, zThreshold, anomalies⟩ := by
  rw [answer, detectAnomalies]
  simp only [Prog.bind_eq, Prog.pure_eq, Windows, ← minusDays_eq_ok_iff]
  rcases hbaseline : minusDays today baselineDays with ex | baselineStart
  · constructor
    · intro h
      cases h
    · rintro ⟨_, _, _, ⟨h, -⟩, -⟩
      cases h
  · rcases hlookback : minusDays today lookbackDays with ex | lookbackStart
    · constructor
      · intro h
        cases h
      · rintro ⟨_, _, _, ⟨-, h⟩, -⟩
        cases h
    · simp only [Prog.ofExcept_ok, Prog.bind_ret, Except.ok.injEq]
      rw [sql, Prog.run_perform_ok _ (alone_selectExpenses hdb hf _), ← World.expensesOf]
      cases hrows : anomalyRows order userId baselineStart lookbackStart today zThreshold
          (w.expensesOf userId) with
      | error ex =>
          constructor
          · intro h
            cases h
          · rintro ⟨_, _, _, ⟨rfl, rfl⟩, h, -⟩
            rw [hrows] at h
            cases h
      | ok anomalies =>
          constructor
          · intro h
            cases h
            exact ⟨baselineStart, lookbackStart, anomalies, ⟨rfl, rfl⟩, hrows, rfl⟩
          · rintro ⟨_, _, _, ⟨rfl, rfl⟩, h, rfl⟩
            rw [hrows] at h
            cases h
            rfl

end run

/-! ## The divisor -/

/-- **The divisor of an established category** is never zero exactly if the deviation of
its baseline is at least half a cent, or NaN. -/
theorem divisor_ne_zero_iff {rows : List Expense} {userId : UUID}
    {baselineStart lookbackStart : Date} {c : ExpenseCategory}
    (h : isEstablished (categoryBaseline rows userId baselineStart lookbackStart c) = true) :
    (∀ b, baselineRow (c, categoryBaseline rows userId baselineStart lookbackStart c) = .ok b →
        b.stddev ≠ .cents 0) ↔
      AtLeastHalfACent (categoryBaseline rows userId baselineStart lookbackStart c) := by
  have hlength := length_of_isEstablished h
  rw [← deviationOf_ne_zero_iff (by omega)]
  constructor
  · intro hall hzero
    -- a deviation of zero fits the money type
    have hfits : DeviationFits (categoryBaseline rows userId baselineStart lookbackStart c) := by
      rw [DeviationFits, hzero]
      rfl
    have hb := hall _ (baselineRow_eq_ok_iff.2 hfits)
    exact hb hzero
  · intro hne b hb
    rw [baselineRow_eq_ok hb]
    exact hne

/-- An expense of 10 January 2026, or an earlier one of the baseline. -/
def purchase (id : UUID) (cents : ℤ) (recent : Bool) : Expense where
  id := id
  userId := 7
  merchantName := "Acme"
  amount := .cents cents
  currency := "USD"
  category := .other
  expenseDate := if recent then ⟨2026, 1, 10, by decide⟩ else ⟨2025, 11, 3, by decide⟩
  description := none
  receiptId := none
  source := .manual
  createdAt := 0
  updatedAt := 0

/-- Five purchases of a baseline and a recent one. -/
def baselineWorld (a b c d e recent : ℤ) : World Unit :=
  World.ofDb { Db.ofUsers [] with
    expenses := Store.ofTable ⟨[purchase 1 a false, purchase 2 b false, purchase 3 c false,
      purchase 4 d false, purchase 5 e false, purchase 6 recent true], by
        show ([1, 2, 3, 4, 5, 6] : List UUID).Nodup
        decide⟩ }

/-- The baseline of the purchases. -/
def purchasesBefore (w : World Unit) : List Expense :=
  categoryBaseline (w.expensesOf 7) 7 ⟨2025, 7, 19, by decide⟩ ⟨2025, 12, 16, by decide⟩ .other

/-- Four purchases of ten dollars and one of a dollar more. -/
theorem divisor_ne_zero_iff_sample :
    isEstablished (purchasesBefore (baselineWorld 1000 1000 1000 1000 1100 5000)) = true ∧
      ∀ b, baselineRow (.other,
        purchasesBefore (baselineWorld 1000 1000 1000 1000 1100 5000)) = .ok b →
        b.stddev ≠ .cents 0 := by
  have hest : isEstablished
      (purchasesBefore (baselineWorld 1000 1000 1000 1000 1100 5000)) = true := by
    decide +kernel
  exact ⟨hest, (divisor_ne_zero_iff hest).2 (Or.inr (by decide +kernel))⟩

/-- Four purchases of ten dollars and one of a cent more pass the guard, and the report of
a later purchase is a division by zero. -/
theorem divisor_zero_of_one_cent :
    isEstablished (purchasesBefore (baselineWorld 1000 1000 1000 1000 1001 5000)) = true ∧
      baselineRow (.other, purchasesBefore (baselineWorld 1000 1000 1000 1000 1001 5000)) =
        .ok ⟨.other, .cents 1000, .cents 0, 5⟩ ∧
      answer Env.quiet (baselineWorld 1000 1000 1000 1000 1001 5000)
        (detectAnomalies RowOrder.asStored 7 ⟨2026, 1, 15, by decide⟩ 180 30 2) =
          .error .dataError := by
  refine ⟨by decide +kernel, by decide +kernel, by decide +kernel⟩

/-! ## What is reported -/

/-- The report of a day: the windows, and the first of the user's flagged rows, the most
anomalous ones first. -/
structure ReportOf (rows : List Expense) (userId : UUID) (today : Date)
    (baselineDays lookbackDays : ℤ) (zThreshold : ℚ) (report : AnomalyReport) : Prop where
  windows : Windows today baselineDays lookbackDays report.baselineStart report.lookbackStart
  threshold : report.zThreshold = zThreshold
  ranked : RankedOf
    (flaggedRows userId report.baselineStart report.lookbackStart today zThreshold rows)
    report.anomalies maxAnomalyResults

/-- **The report is that of the rounded statistics.**  It is made exactly if the windows
are in the calendar, the deviations fit the money type and no row is divided by zero,
and whenever it is made it ranks the rows whose rounded score reaches the threshold. -/
theorem report_of_rounded {env : Env} {w : World Unit} (hdb : ∀ n, env.fault n = .none)
    (hf : w.failed () = false) (order : RowOrder) (userId : UUID) (today : Date)
    (baselineDays lookbackDays : ℤ) (zThreshold : ℚ) :
    ((∃ report, answer env w
        (detectAnomalies order userId today baselineDays lookbackDays zThreshold) = .ok report) ↔
      ∃ baselineStart lookbackStart,
        Windows today baselineDays lookbackDays baselineStart lookbackStart ∧
          Answerable userId baselineStart lookbackStart today (w.expensesOf userId)) ∧
    ∀ report, answer env w
        (detectAnomalies order userId today baselineDays lookbackDays zThreshold) = .ok report →
      ReportOf (w.expensesOf userId) userId today baselineDays lookbackDays zThreshold report := by
  simp only [answer_detectAnomalies hdb hf, anomalyRows_eq_ok_iff]
  constructor
  · constructor
    · rintro ⟨_, baselineStart, lookbackStart, _, hwindows, ⟨hanswerable, -⟩, -⟩
      exact ⟨baselineStart, lookbackStart, hwindows, hanswerable⟩
    · rintro ⟨baselineStart, lookbackStart, hwindows, hanswerable⟩
      exact ⟨_, baselineStart, lookbackStart, _, hwindows, ⟨hanswerable, rfl⟩, rfl⟩
  · rintro _ ⟨baselineStart, lookbackStart, anomalies, hwindows, ⟨-, rfl⟩, rfl⟩
    exact ⟨hwindows, rfl, rankedOf_mergeSort order _ _⟩

/-- Is the row anomalous by the exact statistics of its baseline? -/
def ExactlyFlagged (userId : UUID) (baselineStart lookbackStart today : Date) (zThreshold : ℚ)
    (rows : List Expense) (e : Expense) : Prop :=
  let baseline := categoryBaseline rows userId baselineStart lookbackStart e.category
  let cents := baseline.map (fun e => e.amount.centsVal)
  isRecent userId lookbackStart today e = true ∧ minBaselineSamples ≤ baseline.length ∧
    0 < sampleVariance cents ∧
    (zThreshold : ℝ) * √(sampleVariance cents : ℝ) ≤
      e.amount.centsVal - (cents.sum : ℝ) / baseline.length

/-- The day of the samples. -/
def sampleDay : Date := ⟨2026, 1, 15, by decide⟩

/-- The report of the purchases, with the default parameters. -/
def sampleReport (w : World Unit) : Except PyExc AnomalyReport :=
  answer Env.quiet w (detectAnomalies RowOrder.asStored 7 sampleDay defaultBaselineDays
    defaultLookbackDays defaultZThreshold)

/-- A purchase two cents above a baseline that varies by a cent. -/
def twoCentWorld : World Unit := baselineWorld 1000 1001 1002 1001 1003 1003

/-- Its report: the rounded mean is 10.01 and the rounded deviation a cent. -/
def twoCentReport : AnomalyReport :=
  ⟨⟨2025, 12, 16, by decide⟩, ⟨2025, 7, 19, by decide⟩, 2, [⟨6, "Acme", .other, .cents 1003,
    ⟨2026, 1, 10, by decide⟩, some 2, .cents 1001, .cents 1, 5⟩]⟩

theorem sampleReport_twoCentWorld : sampleReport twoCentWorld = .ok twoCentReport := by
  decide +kernel

/-- The report of that purchase. -/
theorem report_of_rounded_sample :
    ∃ report, sampleReport twoCentWorld = .ok report ∧
      ReportOf (twoCentWorld.expensesOf 7) 7 sampleDay 180 30 2
        report := by
  obtain ⟨-, hall⟩ := report_of_rounded (w := twoCentWorld)
    (fun n => (rfl : Env.quiet.fault n = .none)) rfl RowOrder.asStored 7 sampleDay
    defaultBaselineDays defaultLookbackDays defaultZThreshold
  exact ⟨_, sampleReport_twoCentWorld, hall _ sampleReport_twoCentWorld⟩

/-- That purchase is 1.4 exact deviations above the exact mean, and it is reported with a
score of 2. -/
theorem not_exactlyFlagged_reported :
    ∃ report, sampleReport twoCentWorld = .ok report ∧
      (∃ a ∈ report.anomalies, a.expenseId = 6) ∧
      ∀ e ∈ twoCentWorld.expensesOf 7, e.id = 6 →
        ¬ExactlyFlagged 7 report.baselineStart report.lookbackStart sampleDay 2
          (twoCentWorld.expensesOf 7) e := by
  refine ⟨_, sampleReport_twoCentWorld, ⟨_, List.mem_singleton_self _, rfl⟩, ?_⟩
  intro e he hid hflagged
  have heq : e = purchase 6 1003 true := by
    have hall : ∀ x ∈ twoCentWorld.expensesOf 7,
        x.id = 6 → x = purchase 6 1003 true := by decide
    exact hall e he hid
  subst heq
  obtain ⟨-, -, -, hle⟩ := hflagged
  have hbaseline : (categoryBaseline (twoCentWorld.expensesOf 7) 7 twoCentReport.baselineStart
      twoCentReport.lookbackStart .other).map (fun e => e.amount.centsVal) =
        [1000, 1001, 1002, 1001, 1003] := by
    decide
  have hlength : (categoryBaseline (twoCentWorld.expensesOf 7) 7 twoCentReport.baselineStart
      twoCentReport.lookbackStart .other).length = 5 := by
    decide
  have hvariance : sampleVariance [1000, 1001, 1002, 1001, 1003] = 13 / 10 := by decide +kernel
  have hsum : [1000, 1001, 1002, 1001, 1003].sum = (5007 : ℤ) := rfl
  have hroot : (1 : ℝ) ≤ √((13 / 10 : ℚ) : ℝ) := by
    apply Real.le_sqrt_of_sq_le
    norm_num
  have hcents : (purchase 6 1003 true).amount.centsVal = 1003 := rfl
  rw [show (purchase 6 1003 true).category = .other from rfl, hbaseline, hlength,
    hvariance, hsum, hcents] at hle
  push_cast at hle hroot
  linarith

/-! ## One row in two tables -/

/-- A row that has no part in the baseline of an expense and is not the expense. -/
def Unrelated (userId : UUID) (e : Expense) (lookbackStart : Date) (r : Expense) : Prop :=
  r.userId ≠ userId ∨ r.category ≠ e.category ∨ (lookbackStart ≤ r.expenseDate ∧ r.id ≠ e.id)

/-- The rows of a table are distinct. -/
theorem nodup_expensesOf (w : World Unit) (userId : UUID) : (w.expensesOf userId).Nodup :=
  ((w.db.expenses.view ()).nodup.of_map).filter _

theorem mem_expensesOf {w : World Unit} {userId : UUID} {e : Expense} :
    e ∈ w.expensesOf userId ↔ e ∈ w.seenExpenses ∧ e.userId = userId := by
  rw [World.expensesOf, List.mem_filter, decide_eq_true_iff]

theorem mem_categoryBaseline {rows : List Expense} {userId : UUID}
    {baselineStart lookbackStart : Date} {c : ExpenseCategory} {e : Expense} :
    e ∈ categoryBaseline rows userId baselineStart lookbackStart c ↔
      e ∈ rows ∧ e.userId = userId ∧ baselineStart ≤ e.expenseDate ∧
        e.expenseDate < lookbackStart ∧ e.category = c := by
  rw [categoryBaseline, rowsOf, List.mem_filter, List.mem_filter, isSpentIn, Bool.and_eq_true,
    Bool.and_eq_true, decide_eq_true_iff, decide_eq_true_iff, decide_eq_true_iff,
    decide_eq_true_iff]
  tauto

theorem nodup_categoryBaseline (w : World Unit) (userId : UUID)
    (baselineStart lookbackStart : Date) (c : ExpenseCategory) :
    (categoryBaseline (w.expensesOf userId) userId baselineStart lookbackStart c).Nodup :=
  ((nodup_expensesOf w userId).filter _).filter _

/-- Tables that differ in unrelated rows have the same baseline for the expense. -/
theorem categoryBaseline_perm {w w' : World Unit} {userId : UUID} {e : Expense}
    {lookbackStart : Date}
    (hdiff : ∀ r, ¬(r ∈ w.seenExpenses ↔ r ∈ w'.seenExpenses) → Unrelated userId e lookbackStart r)
    (baselineStart : Date) :
    (categoryBaseline (w.expensesOf userId) userId baselineStart lookbackStart e.category).Perm
      (categoryBaseline (w'.expensesOf userId) userId baselineStart lookbackStart e.category) := by
  rw [List.perm_ext_iff_of_nodup (nodup_categoryBaseline _ _ _ _ _)
    (nodup_categoryBaseline _ _ _ _ _)]
  intro r
  rw [mem_categoryBaseline, mem_categoryBaseline, mem_expensesOf, mem_expensesOf]
  by_cases hsame : r ∈ w.seenExpenses ↔ r ∈ w'.seenExpenses
  · rw [hsame]
  · obtain hu | hc | ⟨hdate, -⟩ := hdiff r hsame
    · constructor
      · exact fun h => absurd h.1.2 hu
      · exact fun h => absurd h.1.2 hu
    · constructor
      · exact fun h => absurd h.2.2.2.2 hc
      · exact fun h => absurd h.2.2.2.2 hc
    · constructor
      · exact fun h => absurd h.2.2.2.1 (not_lt_of_ge hdate)
      · exact fun h => absurd h.2.2.2.1 (not_lt_of_ge hdate)

section perm

variable {rows rows' : List Expense} (h : rows.Perm rows')

include h

theorem variance_perm : variance rows = variance rows' := by
  have hany : rows.any (fun e => e.amount = .nan) = rows'.any (fun e => e.amount = .nan) :=
    h.any_eq
  rw [variance, variance, hany, sampleVariance_perm (h.map _)]

theorem isEstablished_perm : isEstablished rows = isEstablished rows' := by
  rw [isEstablished, isEstablished, h.length_eq, variance_perm h]

theorem baselineOf_perm (c : ExpenseCategory) : Baseline.of (c, rows) = Baseline.of (c, rows') := by
  have hsum : sumAmount rows = sumAmount rows' := (h.map Expense.amount).sum_eq
  rw [Baseline.of, Baseline.of]
  simp only [meanOf, deviationOf, hsum, h.length_eq, variance_perm h]

end perm

/-- The rows of the report, before they are ranked. -/
theorem mem_flaggedRows {userId : UUID} {baselineStart lookbackStart today : Date}
    {zThreshold : ℚ} {rows : List Expense} {a : Anomaly} :
    a ∈ flaggedRows userId baselineStart lookbackStart today zThreshold rows ↔
      ∃ e ∈ rows, isFlagged userId baselineStart lookbackStart today zThreshold rows e = true ∧
        a = verdictOf e (categoryBaseline rows userId baselineStart lookbackStart e.category) := by
  rw [flaggedRows, List.mem_map]
  constructor
  · rintro ⟨e, he, rfl⟩
    obtain ⟨he, hflagged⟩ := List.mem_filter.1 he
    exact ⟨e, he, hflagged, rfl⟩
  · rintro ⟨e, he, hflagged, rfl⟩
    exact ⟨e, List.mem_filter.2 ⟨he, hflagged⟩, rfl⟩

/-- Below the cap an expense is reported exactly if it is flagged, with its verdict. -/
theorem mem_anomalies {env : Env} {w : World Unit} (hdb : ∀ n, env.fault n = .none)
    (hf : w.failed () = false) {order : RowOrder} {userId : UUID} {today : Date}
    {baselineDays lookbackDays : ℤ} {zThreshold : ℚ} {report : AnomalyReport}
    (h : answer env w
      (detectAnomalies order userId today baselineDays lookbackDays zThreshold) = .ok report)
    (hcap : report.anomalies.length < maxAnomalyResults) {e : Expense} (he : e ∈ w.seenExpenses)
    (a : Anomaly) (ha : a.expenseId = e.id) :
    ∃ baselineStart lookbackStart,
      Windows today baselineDays lookbackDays baselineStart lookbackStart ∧
      (a ∈ report.anomalies ↔
        isFlagged userId baselineStart lookbackStart today zThreshold (w.expensesOf userId) e =
            true ∧
          a = verdictOf e (categoryBaseline (w.expensesOf userId) userId baselineStart lookbackStart
            e.category)) := by
  obtain ⟨baselineStart, lookbackStart, anomalies, hwindows, hrows, rfl⟩ :=
    (answer_detectAnomalies hdb hf order userId today baselineDays lookbackDays zThreshold
      report).1 h
  obtain ⟨-, rfl⟩ := (anomalyRows_eq_ok_iff order userId baselineStart lookbackStart today
    zThreshold (w.expensesOf userId)).1 hrows
  refine ⟨baselineStart, lookbackStart, hwindows, ?_⟩
  rw [((rankedOf_mergeSort order _ _).perm_of_lt hcap).mem_iff, mem_flaggedRows]
  constructor
  · rintro ⟨x, hx, hflagged, rfl⟩
    -- two rows of a table with one id are one row
    have hxe : x = e := Table.eq_of_mem_of_key (mem_expensesOf.1 hx).1 he ha
    rw [hxe] at hflagged
    rw [hxe]
    exact ⟨hflagged, rfl⟩
  · rintro ⟨hflagged, rfl⟩
    have hrecent : isRecent userId lookbackStart today e = true := by
      rw [isFlagged, isCompared, Bool.and_eq_true, Bool.and_eq_true] at hflagged
      exact hflagged.1.1
    have huser : e.userId = userId := by
      rw [isRecent, Bool.and_eq_true, Bool.and_eq_true, decide_eq_true_iff] at hrecent
      exact hrecent.1.1
    exact ⟨e, mem_expensesOf.2 ⟨he, huser⟩, hflagged, rfl⟩

/-- **An expense is scored by its own baseline alone.**  Two tables that differ in
unrelated rows report it with the same score, mean, deviation and number of samples,
or not at all. -/
theorem scored_by_own_baseline {env env' : Env} {w w' : World Unit}
    (hdb : ∀ n, env.fault n = .none) (hdb' : ∀ n, env'.fault n = .none)
    (hf : w.failed () = false) (hf' : w'.failed () = false) (order order' : RowOrder)
    (userId : UUID) (today : Date) (baselineDays lookbackDays : ℤ) (zThreshold : ℚ)
    {lookbackStart : Date} (hstart : today.addDays? (-lookbackDays) = some lookbackStart)
    {e : Expense} (he : e ∈ w.seenExpenses) (he' : e ∈ w'.seenExpenses)
    (hdiff : ∀ r, ¬(r ∈ w.seenExpenses ↔ r ∈ w'.seenExpenses) → Unrelated userId e lookbackStart r)
    {report report' : AnomalyReport}
    (h : answer env w
      (detectAnomalies order userId today baselineDays lookbackDays zThreshold) = .ok report)
    (h' : answer env' w'
      (detectAnomalies order' userId today baselineDays lookbackDays zThreshold) = .ok report')
    (hcap : report.anomalies.length < maxAnomalyResults)
    (hcap' : report'.anomalies.length < maxAnomalyResults) :
    ∀ a : Anomaly, a.expenseId = e.id → (a ∈ report.anomalies ↔ a ∈ report'.anomalies) := by
  intro a ha
  obtain ⟨baselineStart, start, ⟨hbaseline, hlookback⟩, hmem⟩ := mem_anomalies hdb hf h hcap he a ha
  obtain ⟨baselineStart', start', ⟨hbaseline', hlookback'⟩, hmem'⟩ :=
    mem_anomalies hdb' hf' h' hcap' he' a ha
  rw [hbaseline, Option.some.injEq] at hbaseline'
  rw [hstart, Option.some.injEq] at hlookback hlookback'
  subst hbaseline' hlookback hlookback'
  have hperm := categoryBaseline_perm hdiff baselineStart
  have hverdict : verdictOf e (categoryBaseline (w.expensesOf userId) userId baselineStart
        lookbackStart e.category) =
      verdictOf e (categoryBaseline (w'.expensesOf userId) userId baselineStart lookbackStart
        e.category) := by
    rw [verdictOf, verdictOf, baselineOf_perm hperm]
  have hflagged : isFlagged userId baselineStart lookbackStart today zThreshold
        (w.expensesOf userId) e =
      isFlagged userId baselineStart lookbackStart today zThreshold (w'.expensesOf userId) e := by
    rw [isFlagged, isFlagged, isCompared, isCompared, hverdict, isEstablished_perm hperm]
  rw [hmem, hmem', hverdict, hflagged]

/-- The purchases, and one of a stranger in the baseline window. -/
def strangerWorld : World Unit :=
  World.ofDb { Db.ofUsers [] with
    expenses := Store.ofTable ⟨twoCentWorld.seenExpenses ++
        [{ purchase 9 990000 false with userId := 8 }], by
      show ([1, 2, 3, 4, 5, 6, 9] : List UUID).Nodup
      decide⟩ }

/-- A stranger's purchase changes nothing. -/
theorem scored_by_own_baseline_sample :
    ∃ report report',
      sampleReport twoCentWorld = .ok report ∧
      sampleReport strangerWorld = .ok report' ∧
      ∀ a : Anomaly, a.expenseId = 6 → (a ∈ report.anomalies ↔ a ∈ report'.anomalies) := by
  have hreport : sampleReport strangerWorld = .ok twoCentReport := by decide +kernel
  refine ⟨_, _, sampleReport_twoCentWorld, hreport, ?_⟩
  have hseen : strangerWorld.seenExpenses =
      twoCentWorld.seenExpenses ++
        [{ purchase 9 990000 false with userId := 8 }] := rfl
  have hstart : sampleDay.addDays? (-defaultLookbackDays) = some ⟨2025, 12, 16, by decide⟩ := by
    decide +kernel
  refine scored_by_own_baseline (e := purchase 6 1003 true)
    (fun n => (rfl : Env.quiet.fault n = .none)) (fun n => (rfl : Env.quiet.fault n = .none))
    rfl rfl RowOrder.asStored RowOrder.asStored 7 sampleDay defaultBaselineDays
    defaultLookbackDays defaultZThreshold hstart (by decide) (by decide) ?_
    sampleReport_twoCentWorld hreport (by decide) (by decide)
  intro r hdiff
  rw [hseen, List.mem_append, List.mem_singleton] at hdiff
  by_cases hr : r = { purchase 9 990000 false with userId := 8 }
  · subst hr
    exact Or.inl (by decide)
  · exact absurd ⟨Or.inl, fun h => h.resolve_right hr⟩ hdiff

end SpendLens
