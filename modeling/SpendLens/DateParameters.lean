/-
# Date parameters

The endpoints that take dates as text.  Each of them reads its date and steps from there: to the
next month, some months back or some days back.  A text that is no date is refused by all but the
expense list, and a date is only safe where every step from it stays in the calendar.
-/
import SpendLens.TrendZones
import SpendLens.Anomalies
import SpendLens.ExpenseService
import SpendLens.Steps

namespace SpendLens

namespace DateParams

/-! ## The endpoints -/

/-- `GET /insights/monthly`; the error is the detail of a 422, as in `getAnomalies`. -/
def getMonthlyBreakdown (order : RowOrder) (userId : UUID) (clock : Date) (month : Option String) :
    Except String (Service MonthlyBreakdown) := do
  let target ← parseMonthOrToday clock month
  return monthlyBreakdown order userId target

/-- The window of `GET /insights/trends`, within its bounds. -/
structure TrendsQuery where
  months : ℤ
  months_bounds : 1 ≤ months ∧ months ≤ maxTrendsMonths

/-- `GET /insights/trends`. -/
def getCategoryTrends (order : RowOrder) (zone : Zone) (userId : UUID) (clock : Date)
    (anchor : Option String) (q : TrendsQuery) : Except String (Service CategoryTrends) := do
  let target ← parseMonthOrToday clock anchor
  return categoryTrends order zone userId target q.months

/-- `GET /budgets/status`, whose `_parse_date_or_today` is the same function once more. -/
def statusEndpoint (order : RowOrder) (userId : UUID) (clock : Date) (today : Option String) :
    Except String (Service BudgetStatusReport) := do
  let target ← parseMonthOrToday clock today
  return budgetStatus order userId target

/-- The query parameters of `GET /expenses`. -/
structure ListQuery where
  category : Option ExpenseCategory
  merchant : Option String
  dateFrom : Option String
  dateTo : Option String
  minAmount : Option Decimal
  maxAmount : Option Decimal
  cursor : Option String
  pageSize : ℤ
  merchant_length : ∀ m, merchant = some m → m.length ≤ 255
  page_bounds : 1 ≤ pageSize ∧ pageSize ≤ maxPageSize

/-- `date.fromisoformat(value) if value else None`. -/
def parseBound (value : Option String) : Except PyExc (Option Date) :=
  match value.filter (fun s => !s.isEmpty) with
  | none => .ok none
  | some s =>
      match Date.fromisoformat s with
      | some d => .ok (some d)
      | none => .error (.valueError "Invalid isoformat string")

/-- `list_`: the bounds are read without a `try`. -/
def listEndpoint (env : Env) (userId : UUID) (q : ListQuery) :
    Service (List Expense × Option String) := do
  let parsedFrom ← Prog.ofExcept (parseBound q.dateFrom)
  let parsedTo ← Prog.ofExcept (parseBound q.dateTo)
  listPage env userId
    { category := q.category
      merchantQuery := q.merchant
      dateFrom := parsedFrom
      dateTo := parsedTo
      minAmount := q.minAmount
      maxAmount := q.maxAmount } q.cursor q.pageSize

/-! ## Requests -/

/-- A request with a date in it. -/
inductive DateRequest where
  | monthly (month : Option String)
  | trends (anchor : Option String) (q : TrendsQuery)
  | anomalies (today : Option String) (q : AnomalyQuery)
  | status (today : Option String)
  | list (q : ListQuery)

/-- What is fixed outside the requests: the order and the time zone of the database, the user and
the clock. -/
structure Site where
  order : RowOrder
  zone : Zone
  userId : UUID
  clock : Date

/-- Run for its exceptions. -/
def ignore {α : Type} (p : Service α) : Service Unit := p.bind (fun _ => .ret ())

/-- A request as it is served: refused with a 422, or answered by a service. -/
def DateRequest.serve (env : Env) (site : Site) : DateRequest → Except String (Service Unit)
  | monthly month => (getMonthlyBreakdown site.order site.userId site.clock month).map ignore
  | trends anchor q =>
      (getCategoryTrends site.order site.zone site.userId site.clock anchor q).map ignore
  | anomalies today q => (getAnomalies site.order site.userId site.clock today q).map ignore
  | status today => (statusEndpoint site.order site.userId site.clock today).map ignore
  | list q => .ok (ignore (listEndpoint env site.userId q))

/-- What the date types raise. -/
def IsDateError : PyExc → Prop
  | .valueError _ => True
  | .overflowError => True
  | _ => False

/-- **A request never crashes on a date**: in whatever state and surroundings it is served, it is
refused or no exception of the date types escapes from it. -/
def NeverCrashes (site : Site) (r : DateRequest) : Prop :=
  ∀ env w p, r.serve env site = .ok p → ∀ e, answer env w p = .error e → ¬IsDateError e

/-- The first day of the calendar. -/
def firstDay : Date := ⟨1, 1, 1, by decide⟩

/-- The date is not in the last month of the calendar. -/
def HasNextMonth (d : Date) : Prop := d.monthIndex < 12 * 10000

instance (d : Date) : Decidable (HasNextMonth d) := inferInstanceAs (Decidable (_ < _))

/-- A bound of the expense list that is absent, empty or a date. -/
def ReadableBound (value : Option String) : Prop :=
  ∀ s, value = some s → s ≠ "" → (Date.fromisoformat s).isSome = true

/-- The domain of a request: every step from its date stays in the calendar. -/
def DateRequest.Safe (site : Site) : DateRequest → Prop
  | monthly month => ∀ d, parseMonthOrToday site.clock month = .ok d → HasNextMonth d
  | trends anchor q => ∀ d, parseMonthOrToday site.clock anchor = .ok d →
      HasNextMonth d ∧ 12 + q.months ≤ d.monthIndex ∧
        -- the first day of the calendar is handed over in UTC
        (12 + q.months = d.monthIndex → site.zone firstDay ≤ 0)
  | anomalies today q => ∀ d, parseMonthOrToday site.clock today = .ok d →
      q.lookbackDays < q.baselineDays → q.baselineDays < d.ordinal
  | status today => ∀ d, parseMonthOrToday site.clock today = .ok d → HasNextMonth d
  | list q => ReadableBound q.dateFrom ∧ ReadableBound q.dateTo

/-! ## What is read raises no date error -/

/-- The operations of these services. -/
def Reads : Op → Prop
  | .sql (.selectExpenses _ _) => True
  | .sql (.selectBudgets _ _) => True
  | _ => False

/-- What the database answers: the rows asked for, or an error of its own. -/
def Answers (o : Op) (r : Except PyExc o.Res) : Prop :=
  SoundRows o r ∧ ∀ e, r = .error e → ¬IsDateError e

theorem answers_of_failed {env : Env} {w : World Unit} (s : Stmt) (hf : w.failed () = true) :
    Answers (.sql s) (alone env (.sql s) w).1 := by
  have hrefused : alone env (.sql s) w = (.error .pendingRollback, w.tick) := by
    simp [alone, Machine.alone, backend, exec, hf]
  rw [hrefused]
  refine ⟨by cases s <;> trivial, fun e he => ?_⟩
  cases he
  exact id

/-- A `SELECT` of a session that works. -/
theorem answers_select {env : Env} {w : World Unit} {s : Stmt} {rows : s.Res}
    (params : List Param)
    (hexec : s.exec (env.clock w.calls) () w.db =
      some (if params.all Param.ok = true then .ok rows else .error .dataError, w.db))
    (hsound : SoundRows (.sql s) (.ok rows)) :
    Answers (.sql s) (alone env (.sql s) w).1 := by
  cases hf : w.failed () with
  | true => exact answers_of_failed s hf
  | false =>
      have herror : ∀ e, ¬IsDateError e →
          Answers (.sql s) (.error e : Except PyExc s.Res) := by
        intro e he
        refine ⟨by cases s <;> trivial, fun e' he' => ?_⟩
        cases he'
        exact he
      by_cases hfault : env.fault w.calls = .none
      · by_cases hparams : params.all Param.ok = true
        · rw [if_pos hparams] at hexec
          rw [alone_sql_ok env hf hfault hexec]
          exact ⟨hsound, nofun⟩
        · rw [if_neg hparams] at hexec
          rw [alone_sql_error env hf hfault hexec]
          exact herror _ id
      · rw [alone_sql_fault env hf hfault]
        exact herror _ id

theorem answers_alone (env : Env) {o : Op} (ho : Reads o) (w : World Unit) :
    Answers o (alone env o w).1 := by
  cases o with
  | sql s =>
      cases s with
      | selectExpenses params p =>
          exact answers_select params rfl (fun e he => (List.mem_filter.1 he).2)
      | selectBudgets params p => exact answers_select params rfl trivial
      | _ => exact ho.elim
  | _ => exact ho.elim

/-- A service that raises no date error. -/
abbrev DateSafe {α : Type} (p : Service α) : Prop :=
  p.Respects Reads Answers (fun _ => True) (fun e => ¬IsDateError e)

/-- So it does in every state. -/
theorem DateSafe.answer {α : Type} {p : Service α} (h : DateSafe p) {env : Env} {w : World Unit}
    {e : PyExc} (he : answer env w p = .error e) : ¬IsDateError e :=
  h.run_exc (fun _ w ho => answers_alone env ho w) he

theorem DateSafe.ignore {α : Type} {p : Service α} (h : DateSafe p) : DateSafe (ignore p) :=
  Prog.Respects.bind h (fun _ _ => Prog.Respects.ret trivial)

/-- A step on the calendar that is taken, or raises no date error. -/
theorem dateSafe_ofExcept {α : Type} {r : Except PyExc α} (h : ∀ e, r = .error e → ¬IsDateError e) :
    DateSafe (Prog.ofExcept r : Service α) :=
  Prog.Respects.ofExcept (fun _ _ => trivial) h

theorem DateSafe.bind {α β : Type} {p : Service α} {f : α → Service β} (hp : DateSafe p)
    (hf : ∀ a, DateSafe (f a)) : DateSafe (p.bind f) :=
  Prog.Respects.bind hp (fun a _ => hf a)

theorem dateSafe_sql {s : Stmt} {post : s.Res → Prop} (hs : Reads (.sql s))
    (hpost : ∀ a, Answers (.sql s) (.ok a) → post a) :
    (sql s).Respects Reads Answers post (fun e => ¬IsDateError e) :=
  Prog.Respects.perform hs hpost (fun e h => h.2 e rfl)

/-- A query, and what is made of its rows. -/
theorem dateSafe_select {β : Type} {params : List Param} {p : Expense → Bool}
    {f : List Expense → Service β}
    (hf : ∀ rows, (∀ e ∈ rows, p e = true) → DateSafe (f rows)) :
    DateSafe ((sql (.selectExpenses params p)).bind f) := by
  have hrows : (sql (.selectExpenses params p)).Respects Reads Answers
      (fun rows => ∀ e ∈ rows, p e = true) (fun e => ¬IsDateError e) :=
    dateSafe_sql trivial (fun rows h => h.1)
  exact Prog.Respects.bind hrows hf

/-! ## Inside the calendar -/

variable {order : RowOrder} {zone : Zone} {userId : UUID} {d : Date}

theorem dateSafe_monthlyBreakdown (h : HasNextMonth d) :
    DateSafe (monthlyBreakdown order userId d) := by
  obtain ⟨stop, hbounds, -, -⟩ := monthBounds_ok h
  rw [monthlyBreakdown, hbounds]
  exact dateSafe_select (fun _ _ => Prog.Respects.ret trivial)

/-- A status fails on a budget that is no number. -/
theorem not_isDateError_statusOf {spent : Grouping.Dict ExpenseCategory Numeric} {start stop : Date}
    {b : Budget} {e : PyExc} (h : statusOf spent start stop b = .error e) : ¬IsDateError e := by
  have hratio := Fallible.map_eq_error.1 h
  unfold spendRatio at hratio
  split at hratio
  · cases hratio
    exact id
  · cases hratio
  · cases hratio

theorem dateSafe_budgetStatus (h : HasNextMonth d) : DateSafe (budgetStatus order userId d) := by
  obtain ⟨stop, hbounds, -, -⟩ := monthBounds_ok h
  have hbudgets : DateSafe (listBudgets order userId false) :=
    DateSafe.bind (dateSafe_sql trivial (fun _ _ => trivial)) (fun _ => Prog.Respects.ret trivial)
  refine DateSafe.bind hbudgets (fun budgets => ?_)
  simp only [hbounds]
  split
  · exact Prog.Respects.ret trivial
  · refine dateSafe_select (fun rows _ => DateSafe.bind (dateSafe_ofExcept (fun e he => ?_))
      (fun _ => Prog.Respects.ret trivial))
    obtain ⟨b, -, hb⟩ := Fallible.mapM_eq_error he
    exact not_isDateError_statusOf hb

/-- A label fails only on the first day of the calendar, east of UTC. -/
theorem not_isDateError_trendRow {g : (Date × ExpenseCategory) × List Expense} {e : PyExc}
    (hday : g.1.1.day = 1) (hfirst : g.1.1.monthIndex = 13 → zone firstDay ≤ 0)
    (h : trendRow zone g = .error e) : ¬IsDateError e := by
  have hlabel := Fallible.map_eq_error.1 h
  rw [Zone.utcDate] at hlabel
  split at hlabel
  · cases hlabel
  · rename_i heast
    by_cases hindex : g.1.1.monthIndex = 13
    · have hg : g.1.1 = firstDay := Date.eq_of_monthIndex hday rfl hindex
      rw [hg] at heast
      exact absurd (hfirst hindex) heast
    · obtain ⟨p, hp, -⟩ := Date.addDays?_neg_one hday
        (lt_of_le_of_ne (Date.monthIndex_ge _) (Ne.symm hindex))
      rw [hp] at hlabel
      cases hlabel

/-- The first days of the groups of a window are not before it. -/
theorem first_of_group {start stop : Date} (hstart : start.day = 1) {rows : List Expense}
    (hrows : ∀ e ∈ rows, isSpentIn userId start stop e = true)
    {g : (Date × ExpenseCategory) × List Expense}
    (hg : g ∈ order.arrange (Grouping.groupBy monthAndCategory rows)) :
    g.1.1.day = 1 ∧ start.monthIndex ≤ g.1.1.monthIndex := by
  obtain ⟨⟨e, he, hkey⟩, -⟩ := Grouping.mem_groupBy.1 ((order.perm _).mem_iff.1 hg)
  have hspent := hrows e he
  rw [isSpentIn, Bool.and_eq_true, Bool.and_eq_true, decide_eq_true_iff, decide_eq_true_iff,
    Date.le_iff_of_day_one hstart] at hspent
  rw [← hkey]
  exact ⟨rfl, hspent.1.2⟩

theorem dateSafe_categoryTrends {months : ℤ} (hmonths : 1 ≤ months ∧ months ≤ maxTrendsMonths)
    (h : HasNextMonth d) (hfirst : 12 + months ≤ d.monthIndex)
    (hzone : 12 + months = d.monthIndex → zone firstDay ≤ 0) :
    DateSafe (categoryTrends order zone userId d months) := by
  obtain ⟨n, hn⟩ : ∃ n : ℕ, (max 1 (min months maxTrendsMonths)).toNat = n := ⟨_, rfl⟩
  have hcount : (n : ℤ) = months := by omega
  obtain ⟨start, hstart, hday, hindex⟩ := monthsBack_ok d.firstOfMonth (n := n - 1)
    (by rw [Date.monthIndex_firstOfMonth]; omega)
  obtain ⟨stop, hbounds, -, -⟩ := monthBounds_ok (d := d.firstOfMonth) h
  obtain ⟨dates, hdates, -⟩ := Fallible.mapM_ok (f := monthsBack d.firstOfMonth)
    (P := fun _ _ => True) (l := (List.range n).reverse) (fun i hi => by
      have hi := List.mem_range.1 (List.mem_reverse.1 hi)
      obtain ⟨b, hb, -⟩ := monthsBack_ok d.firstOfMonth (n := i)
        (by rw [Date.monthIndex_firstOfMonth]; omega)
      exact ⟨b, hb, trivial⟩)
  rw [Date.monthIndex_firstOfMonth] at hindex
  rw [categoryTrends]
  simp only [hn, hstart, hbounds, hdates, Prog.bind_eq, Prog.ofExcept_ok, Prog.bind_ret]
  refine dateSafe_select (fun rows hrows => DateSafe.bind (dateSafe_ofExcept (fun e he => ?_))
    (fun _ => Prog.Respects.ret trivial))
  obtain ⟨g, hg, hlabel⟩ := Fallible.mapM_eq_error he
  obtain ⟨hgday, hgindex⟩ := first_of_group hday hrows hg
  exact not_isDateError_trendRow hgday (fun h13 => hzone (by omega)) hlabel

/-- The statement of the anomalies fails on sums and scores only. -/
theorem not_isDateError_anomalyRows {baselineStart lookbackStart today : Date} {zThreshold : ℚ}
    {rows : List Expense} {e : PyExc}
    (h : anomalyRows order userId baselineStart lookbackStart today zThreshold rows = .error e) :
    ¬IsDateError e := by
  have hcast : ∀ n : Numeric, castMoney n = .error e → ¬IsDateError e := by
    intro n hn
    unfold castMoney at hn
    split at hn
    · cases hn
    · split at hn
      · cases hn
      · cases hn
        exact id
  have hscore : ∀ a m s : Numeric, zScore a m s = .error e → ¬IsDateError e := by
    intro a m s hs
    unfold zScore at hs
    split at hs
    · split at hs
      · cases hs
        exact id
      · cases hs
    · cases hs
  rcases Fallible.bind_eq_error.1 h with hbaseline | ⟨baseline, -, h⟩
  · obtain ⟨g, -, hg⟩ := Fallible.mapM_eq_error hbaseline
    exact hcast _ (Fallible.map_eq_error.1 hg)
  · rcases Fallible.bind_eq_error.1 h with hscored | ⟨found, -, h⟩
    · obtain ⟨p, -, hp⟩ := Fallible.mapM_eq_error hscored
      exact hscore _ _ _ (Fallible.map_eq_error.1 hp)
    · cases h

/-- Going back fewer days than the calendar has. -/
theorem minusDays_ok {k : ℤ} (hk : 0 ≤ k) (h : k < d.ordinal) : ∃ p, minusDays d k = .ok p := by
  obtain ⟨n, rfl⟩ := Int.eq_ofNat_of_zero_le hk
  rw [minusDays]
  cases hadd : d.addDays? (-(n : ℤ)) with
  | some p => exact ⟨p, rfl⟩
  | none => exact absurd (Date.addDays?_neg_eq_none_iff.1 hadd) (by omega)

theorem dateSafe_detectAnomalies {baselineDays lookbackDays : ℤ} {zThreshold : ℚ}
    (hlookback : 0 ≤ lookbackDays) (hless : lookbackDays < baselineDays)
    (h : baselineDays < d.ordinal) :
    DateSafe (detectAnomalies order userId d baselineDays lookbackDays zThreshold) := by
  obtain ⟨baselineStart, hbaseline⟩ := minusDays_ok (d := d) (k := baselineDays) (by omega) h
  obtain ⟨lookbackStart, hstart⟩ := minusDays_ok (d := d) hlookback (by omega)
  rw [detectAnomalies, hbaseline, hstart]
  exact dateSafe_select (fun rows _ => DateSafe.bind
    (dateSafe_ofExcept (fun e he => not_isDateError_anomalyRows he))
    (fun _ => Prog.Respects.ret trivial))

/-! ## The expense list -/

theorem parseBound_ok_iff {value : Option String} :
    (∃ bound, parseBound value = .ok bound) ↔ ReadableBound value := by
  rw [ReadableBound, parseBound]
  cases value with
  | none => exact iff_of_true ⟨none, rfl⟩ nofun
  | some s =>
      by_cases hs : s = ""
      · subst hs
        exact iff_of_true ⟨none, rfl⟩ (fun s' h hne => absurd (Option.some.inj h).symm hne)
      · have hfilter : (some s).filter (fun s => !s.isEmpty) = some s := by
          simp [Option.filter, hs]
        rw [hfilter]
        simp only
        cases hread : Date.fromisoformat s with
        | none =>
            refine iff_of_false ?_ (fun h => ?_)
            · rintro ⟨bound, h⟩
              cases h
            · have hsome := h s rfl hs
              rw [hread] at hsome
              cases hsome
        | some d =>
            refine iff_of_true ⟨some d, rfl⟩ (fun s' h _ => ?_)
            rw [← Option.some.inj h, hread]
            rfl

/-- A cursor that cannot be read is no date error. -/
theorem dateSafe_decodeCursor (env : Env) (cursor : Option String) :
    DateSafe (decodeCursor env cursor) := by
  have hjson : ∀ v e, ExpenseCursor.ofJson env v = .error e → ¬IsDateError e := by
    intro v e h
    unfold ExpenseCursor.ofJson at h
    repeat' split at h
    all_goals first | cases h; exact id | cases h
  have hdecode : ∀ raw e, ExpenseCursor.decode env raw = .error e → ¬IsDateError e := by
    intro raw e h
    unfold ExpenseCursor.decode at h
    simp only at h
    repeat' split at h
    all_goals first | exact hjson _ _ h | cases h; exact id
  unfold decodeCursor
  split
  · exact Prog.Respects.ret trivial
  · split
    · exact Prog.Respects.ret trivial
    · rename_i e he
      exact Prog.Respects.raise (hdecode _ _ he)

theorem dateSafe_listEndpoint (env : Env) {q : ListQuery} (hfrom : ReadableBound q.dateFrom)
    (hto : ReadableBound q.dateTo) : DateSafe (listEndpoint env userId q) := by
  obtain ⟨parsedFrom, hparsedFrom⟩ := parseBound_ok_iff.2 hfrom
  obtain ⟨parsedTo, hparsedTo⟩ := parseBound_ok_iff.2 hto
  rw [listEndpoint, hparsedFrom, hparsedTo]
  simp only [Prog.bind_eq, Prog.ofExcept_ok, Prog.bind_ret]
  refine DateSafe.bind (dateSafe_decodeCursor env q.cursor) (fun decoded => DateSafe.bind ?_
    (fun _ => Prog.Respects.ret trivial))
  exact dateSafe_select (fun _ _ => Prog.Respects.ret trivial)

/-! ## Outside the calendar -/

theorem parseBound_error {value : Option String} (h : ¬ReadableBound value) :
    ∃ msg, parseBound value = .error (.valueError msg) := by
  cases hread : parseBound value with
  | ok bound => exact absurd (parseBound_ok_iff.1 ⟨bound, hread⟩) h
  | error e =>
      unfold parseBound at hread
      split at hread
      · cases hread
      · split at hread
        · cases hread
        · cases hread
          exact ⟨_, rfl⟩

/-- An unreadable bound raises before anything is asked. -/
theorem answer_listEndpoint (env : Env) (w : World Unit) (userId : UUID) {q : ListQuery}
    (h : ¬(ReadableBound q.dateFrom ∧ ReadableBound q.dateTo)) :
    ∃ msg, answer env w (listEndpoint env userId q) = .error (.valueError msg) := by
  by_cases hfrom : ReadableBound q.dateFrom
  · obtain ⟨parsedFrom, hparsedFrom⟩ := parseBound_ok_iff.2 hfrom
    obtain ⟨msg, hto⟩ := parseBound_error (fun hto => h ⟨hfrom, hto⟩)
    refine ⟨msg, ?_⟩
    rw [answer, listEndpoint, hparsedFrom, hto]
    rfl
  · obtain ⟨msg, hparsed⟩ := parseBound_error hfrom
    refine ⟨msg, ?_⟩
    rw [answer, listEndpoint, hparsed]
    rfl

theorem answer_monthlyBreakdown_last (env : Env) (w : World Unit) (order : RowOrder)
    (userId : UUID) (h : ¬HasNextMonth d) :
    ∃ msg, answer env w (monthlyBreakdown order userId d) = .error (.valueError msg) := by
  obtain ⟨msg, hbounds⟩ := monthBounds_error (not_lt.1 h)
  refine ⟨msg, ?_⟩
  rw [answer, monthlyBreakdown, hbounds]
  rfl

def someBudget (userId : UUID) : Budget :=
  ⟨3, userId, .other, .cents 10000, .monthly, 80, true, 0, 0⟩

/-- A state in which the user has a budget. -/
def budgetWorld (userId : UUID) : World Unit :=
  World.ofDb { Db.ofUsers [] with
    budgets := Store.ofTable ⟨[someBudget userId], List.nodup_singleton _⟩ }

theorem answer_budgetStatus_last (h : ¬HasNextMonth d) :
    ∃ msg, answer Env.quiet (budgetWorld userId) (budgetStatus order userId d) =
      .error (.valueError msg) := by
  obtain ⟨msg, hbounds⟩ := monthBounds_error (not_lt.1 h)
  refine ⟨msg, ?_⟩
  have hbudget : (budgetWorld userId).seenBudgets.filter (isBudgetOf userId false) =
      [someBudget userId] := by
    rw [World.seenBudgets]
    exact List.filter_cons_of_pos (by simp [isBudgetOf, someBudget])
  have hlist : Prog.run (alone Env.quiet) (listBudgets order userId false) (budgetWorld userId) =
      (.ok [someBudget userId], (budgetWorld userId).tick) := by
    rw [listBudgets, Prog.bind_eq, sql, Prog.run_perform_ok _
      (alone_selectBudgets (fun _ => rfl) rfl _), hbudget, List.perm_singleton.1 (order.perm _),
      List.mergeSort_singleton]
    rfl
  rw [answer, budgetStatus, Prog.bind_eq, Prog.run_bind_ok _ hlist]
  simp only [hbounds]
  rfl

def firstDayExpense (userId : UUID) : Expense where
  id := 1
  userId := userId
  merchantName := "Acme"
  amount := .cents 100
  currency := "USD"
  category := .other
  expenseDate := firstDay
  description := none
  receiptId := none
  source := .manual
  createdAt := 0
  updatedAt := 0

/-- A state in which the user has spent on the first day of the calendar. -/
def firstDayWorld (userId : UUID) : World Unit :=
  World.ofDb { Db.ofUsers [] with
    expenses := Store.ofTable ⟨[firstDayExpense userId], List.nodup_singleton _⟩ }

/-- East of UTC the first day of the calendar has no name in UTC. -/
theorem trendRow_firstDay (hzone : ¬zone firstDay ≤ 0) (category : ExpenseCategory)
    (rows : List Expense) :
    trendRow zone ((firstDay, category), rows) = .error .overflowError := by
  have hlabel : zone.utcDate firstDay = .error .overflowError := by
    have hnone := Date.addDays?_neg_eq_none_iff (d := firstDay) (k := 1)
    rw [Nat.cast_one] at hnone
    rw [Zone.utcDate, if_neg hzone, hnone.2 (by decide)]
  rw [trendRow, hlabel]
  rfl

theorem answer_categoryTrends_firstDay {months : ℤ} (hmonths : 1 ≤ months ∧ months ≤ maxTrendsMonths)
    (h : HasNextMonth d) (hfirst : 12 + months = d.monthIndex) (hzone : ¬zone firstDay ≤ 0) :
    answer Env.quiet (firstDayWorld userId) (categoryTrends order zone userId d months) =
      .error .overflowError := by
  obtain ⟨n, hn⟩ : ∃ n : ℕ, (max 1 (min months maxTrendsMonths)).toNat = n := ⟨_, rfl⟩
  have hcount : (n : ℤ) = months := by omega
  obtain ⟨dates, start, stop, -, hstart, hstartIndex, hstop, hstopIndex, hanswer⟩ :=
    answer_categoryTrends (w := firstDayWorld userId)
      (show ∀ n, Env.quiet.fault n = .none from fun _ => rfl) rfl userId hn (by omega) h
  have hspent : (firstDayWorld userId).seenExpenses.filter (isSpentIn userId start stop) =
      [firstDayExpense userId] := by
    have hindex : (firstDayExpense userId).expenseDate.monthIndex = 13 := rfl
    refine List.filter_cons_of_pos ((isSpentIn_iff hstart hstop _).2 ⟨rfl, ?_, ?_⟩)
    · omega
    · omega
  have hgroups : Grouping.groupBy monthAndCategory [firstDayExpense userId] =
      [((firstDay, .other), [firstDayExpense userId])] := by
    simp [Grouping.groupBy, Grouping.rowsOf, monthAndCategory, firstDayExpense, firstDay,
      Date.firstOfMonth]
  rw [hanswer order zone _ rfl, hspent, hgroups, List.perm_singleton.1 (order.perm _),
    List.mapM_cons, trendRow_firstDay hzone]
  rfl

/-- Too many days back. -/
theorem answer_detectAnomalies_error {env : Env} {w : World Unit} {baselineDays lookbackDays : ℤ}
    {zThreshold : ℚ} (hbaseline : 0 ≤ baselineDays) (h : ¬baselineDays < d.ordinal) :
    answer env w (detectAnomalies order userId d baselineDays lookbackDays zThreshold) =
      .error .overflowError := by
  obtain ⟨n, rfl⟩ := Int.eq_ofNat_of_zero_le hbaseline
  have hnone : minusDays d n = .error .overflowError := by
    rw [minusDays, Date.addDays?_neg_eq_none_iff.2 (by omega)]
  rw [answer, detectAnomalies, hnone]
  rfl

/-! ## The safe requests -/

theorem answer_ignore {env : Env} {w : World Unit} {α : Type} {p : Service α} {e : PyExc} :
    answer env w (ignore p) = .error e ↔ answer env w p = .error e := by
  rw [answer, answer, ignore, Prog.run_bind]
  rcases Prog.run (alone env) p w with ⟨e' | a, v⟩
  · simp
  · simp

/-- A refused request does not crash, and a served one does as its service. -/
theorem neverCrashes_of_parse {site : Site} {r : DateRequest} {α : Type} {value : Option String}
    {service : Date → Service α}
    (hserve : ∀ env, r.serve env site =
      ((parseMonthOrToday site.clock value).map service).map ignore) :
    NeverCrashes site r ↔ ∀ d, parseMonthOrToday site.clock value = .ok d →
      ∀ env w e, answer env w (service d) = .error e → ¬IsDateError e := by
  rw [NeverCrashes]
  simp only [hserve]
  cases parseMonthOrToday site.clock value with
  | error detail => simp [Except.map]
  | ok d => simp [Except.map, answer_ignore]

/-- Where the step from a date is safe no state makes the service crash, and elsewhere one does. -/
theorem neverCrashes_iff_of_parse {site : Site} {r : DateRequest} {α : Type} {value : Option String}
    {service : Date → Service α} {Fine : Date → Prop}
    (hserve : ∀ env, r.serve env site =
      ((parseMonthOrToday site.clock value).map service).map ignore)
    (hsafe : ∀ d, Fine d → DateSafe (service d))
    (hcrash : ∀ d, ¬Fine d → ∃ env w e, answer env w (service d) = .error e ∧ IsDateError e) :
    NeverCrashes site r ↔ ∀ d, parseMonthOrToday site.clock value = .ok d → Fine d := by
  rw [neverCrashes_of_parse hserve]
  constructor
  · intro h d hd
    by_contra hfine
    obtain ⟨env, w, e, he, hdate⟩ := hcrash d hfine
    exact h d hd env w e he hdate
  · intro h d hd env w e he
    exact (hsafe d (h d hd)).answer he

theorem neverCrashes_monthly (site : Site) (month : Option String) :
    NeverCrashes site (.monthly month) ↔ (DateRequest.monthly month).Safe site := by
  have hserve : ∀ env, (DateRequest.monthly month).serve env site =
      ((parseMonthOrToday site.clock month).map
        (monthlyBreakdown site.order site.userId)).map ignore := by
    intro env
    rw [DateRequest.serve, getMonthlyBreakdown]
    cases parseMonthOrToday site.clock month <;> rfl
  refine neverCrashes_iff_of_parse hserve (fun d hd => dateSafe_monthlyBreakdown hd) (fun d hd => ?_)
  obtain ⟨msg, hmsg⟩ :=
    answer_monthlyBreakdown_last Env.quiet (World.ofDb (Db.ofUsers [])) site.order site.userId hd
  exact ⟨Env.quiet, _, _, hmsg, trivial⟩

theorem neverCrashes_status (site : Site) (today : Option String) :
    NeverCrashes site (.status today) ↔ (DateRequest.status today).Safe site := by
  have hserve : ∀ env, (DateRequest.status today).serve env site =
      ((parseMonthOrToday site.clock today).map
        (budgetStatus site.order site.userId)).map ignore := by
    intro env
    rw [DateRequest.serve, statusEndpoint]
    cases parseMonthOrToday site.clock today <;> rfl
  refine neverCrashes_iff_of_parse hserve (fun d hd => dateSafe_budgetStatus hd) (fun d hd => ?_)
  obtain ⟨msg, hmsg⟩ := answer_budgetStatus_last hd
  exact ⟨_, _, _, hmsg, trivial⟩

theorem neverCrashes_trends (site : Site) (anchor : Option String) (q : TrendsQuery) :
    NeverCrashes site (.trends anchor q) ↔ (DateRequest.trends anchor q).Safe site := by
  have hserve : ∀ env, (DateRequest.trends anchor q).serve env site =
      ((parseMonthOrToday site.clock anchor).map
        (fun d => categoryTrends site.order site.zone site.userId d q.months)).map ignore := by
    intro env
    rw [DateRequest.serve, getCategoryTrends]
    cases parseMonthOrToday site.clock anchor <;> rfl
  refine neverCrashes_iff_of_parse hserve (fun d hd =>
    dateSafe_categoryTrends q.months_bounds hd.1 hd.2.1 hd.2.2) (fun d hd => ?_)
  obtain ⟨hlow, hhigh⟩ := q.months_bounds
  by_cases hcal : LeavesCalendar d (trendMonths q.months)
  · obtain ⟨msg, hmsg⟩ := answer_of_leavesCalendar (w := World.ofDb (Db.ofUsers [])) hcal site.userId
    exact ⟨Env.quiet, _, _, hmsg site.order site.zone, trivial⟩
  · have hmonths : (trendMonths q.months : ℤ) = q.months := by
      rw [trendMonths]
      omega
    rw [LeavesCalendar, not_or, not_lt, not_le] at hcal
    have hnext : HasNextMonth d := hcal.2
    have hfirst : 12 + q.months ≤ d.monthIndex := by omega
    have heast : ¬(12 + q.months = d.monthIndex → site.zone firstDay ≤ 0) :=
      fun h => hd ⟨hnext, hfirst, h⟩
    rw [Classical.not_imp] at heast
    exact ⟨_, _, _, answer_categoryTrends_firstDay q.months_bounds hnext heast.1 heast.2, trivial⟩

theorem neverCrashes_anomalies (site : Site) (today : Option String) (q : AnomalyQuery) :
    NeverCrashes site (.anomalies today q) ↔ (DateRequest.anomalies today q).Safe site := by
  obtain ⟨hlow, hhigh⟩ := q.baseline_bounds
  by_cases hless : q.lookbackDays < q.baselineDays
  · have hserve : ∀ env, (DateRequest.anomalies today q).serve env site =
        ((parseMonthOrToday site.clock today).map (fun d => detectAnomalies site.order site.userId d
          q.baselineDays q.lookbackDays q.zThreshold)).map ignore := by
      intro env
      rw [DateRequest.serve, getAnomalies]
      simp only [if_neg (not_le.2 hless)]
      cases parseMonthOrToday site.clock today <;> rfl
    have hlookback := q.lookback_bounds.1
    refine (neverCrashes_iff_of_parse hserve (fun d hd =>
      dateSafe_detectAnomalies (by omega) hless hd) (fun d hd => ?_)).trans ?_
    · exact ⟨Env.quiet, World.ofDb (Db.ofUsers []), _, answer_detectAnomalies_error (by omega) hd,
        trivial⟩
    · exact forall₂_congr (fun d _ => ⟨fun h _ => h, fun h => h hless⟩)
  · refine iff_of_true (fun env w p hp => ?_) (fun d _ h => absurd h hless)
    rw [DateRequest.serve, getAnomalies] at hp
    simp only [if_pos (not_lt.1 hless)] at hp
    cases htarget : parseMonthOrToday site.clock today with
    | error detail =>
        rw [htarget] at hp
        cases hp
    | ok target =>
        rw [htarget] at hp
        cases hp

theorem neverCrashes_list (site : Site) (q : ListQuery) :
    NeverCrashes site (.list q) ↔ (DateRequest.list q).Safe site := by
  constructor
  · intro h
    by_contra hsafe
    obtain ⟨msg, hmsg⟩ := answer_listEndpoint Env.quiet (World.ofDb (Db.ofUsers [])) site.userId
      hsafe
    exact h _ _ _ rfl _ (answer_ignore.2 hmsg) trivial
  · rintro ⟨hfrom, hto⟩ env w p hp e he
    cases hp
    exact (dateSafe_listEndpoint env hfrom hto).answer (answer_ignore.1 he)

/-- **Date parameters never crash a request** exactly if it is safe. -/
theorem neverCrashes_iff (site : Site) (r : DateRequest) : NeverCrashes site r ↔ r.Safe site := by
  cases r with
  | monthly month => exact neverCrashes_monthly site month
  | trends anchor q => exact neverCrashes_trends site anchor q
  | anomalies today q => exact neverCrashes_anomalies site today q
  | status today => exact neverCrashes_status site today
  | list q => exact neverCrashes_list site q

/-- A user in UTC. -/
def sampleSite : Site := ⟨RowOrder.asStored, Zone.utc, 7, ⟨2026, 4, 1, isDate_firstOfApril⟩⟩

/-- A list of the expenses since a day that is none. -/
def sampleList : ListQuery where
  category := none
  merchant := none
  dateFrom := some "yesterday"
  dateTo := none
  minAmount := none
  maxAmount := none
  cursor := none
  pageSize := defaultPageSize
  merchant_length := nofun
  page_bounds := by decide

/-- The bound of the list is not checked, and the end of the calendar is not either. -/
theorem not_neverCrashes_samples :
    ¬NeverCrashes sampleSite (.list sampleList) ∧
      ¬NeverCrashes sampleSite (.monthly (some "9999-12-01")) := by
  constructor
  · intro h
    obtain ⟨msg, hmsg⟩ := answer_listEndpoint Env.quiet (World.ofDb (Db.ofUsers [])) 7
      (q := sampleList) (fun hsafe => nomatch hsafe.1 _ rfl (by decide))
    exact h _ _ _ rfl _ (answer_ignore.2 hmsg) trivial
  · intro h
    obtain ⟨msg, hmsg⟩ := answer_monthlyBreakdown_last Env.quiet (World.ofDb (Db.ofUsers []))
      RowOrder.asStored 7 (d := ⟨9999, 12, 1, by decide⟩) (by decide)
    exact h _ _ _ rfl _ (answer_ignore.2 hmsg) trivial

end DateParams

end SpendLens
