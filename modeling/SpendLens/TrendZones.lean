/-
# Trends and the time zone of the session

The pivot of the trends labels a group with the month `date_trunc` gives, a midnight of
the session's time zone that the driver hands over in UTC, and looks the labels up by
first days of months.  East of UTC every label is the day before a first, so that no
lookup finds one and every bucket is zero.
-/
import SpendLens.AnalyticsAgreement

namespace SpendLens

open Grouping Fallible

/-! ## Labels -/

/-- A session whose clocks are a fixed number of minutes ahead of UTC. -/
def Zone.fixed (offset : ℤ) : Zone := fun _ => offset

/-- The number of months of the trends. -/
def trendMonths (months : ℤ) : ℕ := (max 1 (min months maxTrendsMonths)).toNat

theorem utcDate_west {o : ℤ} (ho : ¬0 < o) (d : Date) : (Zone.fixed o).utcDate d = .ok d := by
  rw [Zone.utcDate, if_pos]
  show o ≤ 0
  omega

/-- East of UTC a first of a month is read back as another day, or not at all. -/
theorem utcDate_east {o : ℤ} (ho : 0 < o) {d : Date} (hd : d.day = 1) :
    (d.monthIndex = 13 ∧ (Zone.fixed o).utcDate d = .error .overflowError) ∨
      13 < d.monthIndex ∧ ∃ p, (Zone.fixed o).utcDate d = .ok p ∧ p.day ≠ 1 := by
  have hzone : ¬Zone.fixed o d ≤ 0 := by
    show ¬o ≤ 0
    omega
  rw [Zone.utcDate, if_neg hzone]
  by_cases hfirst : d.monthIndex = 13
  · -- the first day of the calendar
    have hday : d = ⟨1, 1, 1, by decide⟩ := Date.eq_of_monthIndex hd rfl hfirst
    refine Or.inl ⟨hfirst, ?_⟩
    rw [hday]
    rfl
  · have hlater : 13 < d.monthIndex := lt_of_le_of_ne (Date.monthIndex_ge d) (Ne.symm hfirst)
    obtain ⟨p, hp, hday⟩ := Date.addDays?_neg_one hd hlater
    exact Or.inr ⟨hlater, p, by rw [hp], hday⟩

section groups

variable {o : ℤ} {groups : List ((Date × ExpenseCategory) × List Expense)}

/-- Not east of UTC a group is labelled with its own month. -/
theorem mapM_trendRow_west (ho : ¬0 < o) :
    groups.mapM (trendRow (Zone.fixed o)) = .ok (groups.map (fun g => (g.1, sumAmount g.2))) := by
  induction groups with
  | nil => rfl
  | cons g groups ih =>
      rw [List.mapM_cons, ih, trendRow, utcDate_west ho]
      rfl

/-- East of UTC no label is a first of a month. -/
theorem mapM_trendRow_east (ho : 0 < o) (hfirst : ∀ g ∈ groups, g.1.1.day = 1) :
    ((∃ g ∈ groups, g.1.1.monthIndex = 13) ∧
        groups.mapM (trendRow (Zone.fixed o)) = .error .overflowError) ∨
      (∀ g ∈ groups, 13 < g.1.1.monthIndex) ∧
        ∃ totals, groups.mapM (trendRow (Zone.fixed o)) = .ok totals ∧
          ∀ p ∈ totals, p.1.1.day ≠ 1 := by
  induction groups with
  | nil => exact Or.inr ⟨by simp, [], rfl, by simp⟩
  | cons g groups ih =>
      have hg := utcDate_east ho (hfirst g List.mem_cons_self)
      have ih := ih (fun g hg => hfirst g (List.mem_cons_of_mem _ hg))
      rw [List.mapM_cons, trendRow]
      obtain ⟨hindex, hraise⟩ | ⟨hlater, p, hp, hday⟩ := hg
      · refine Or.inl ⟨⟨g, List.mem_cons_self, hindex⟩, ?_⟩
        rw [hraise]
        rfl
      · rw [hp]
        obtain ⟨⟨g', hmem, hindex⟩, hraise⟩ | ⟨hall, totals, htotals, hdays⟩ := ih
        · refine Or.inl ⟨⟨g', List.mem_cons_of_mem _ hmem, hindex⟩, ?_⟩
          rw [hraise]
          rfl
        · refine Or.inr ⟨List.forall_mem_cons.2 ⟨hlater, hall⟩,
            ((p, g.1.2), sumAmount g.2) :: totals, ?_, List.forall_mem_cons.2 ⟨hday, hdays⟩⟩
          rw [htotals]
          rfl

end groups

/-! ## Grids -/

/-- Sorting forgets the order of the groups. -/
theorem sortCategories_perm {l l' : List ExpenseCategory} (h : l.Perm l') :
    sortCategories l = sortCategories l' := by
  have hinj : ∀ a b : ExpenseCategory, a.value = b.value → a = b := by
    intro a b hab
    revert hab
    cases a <;> cases b <;> decide
  have hsorted : ∀ l : List ExpenseCategory,
      (sortCategories l).Pairwise (fun a b => decide (a.value ≤ b.value) = true) := by
    intro l
    apply List.pairwise_mergeSort
    · intro a b c hab hbc
      rw [decide_eq_true_iff] at hab hbc ⊢
      exact le_trans hab hbc
    · intro a b
      rw [Bool.or_eq_true, decide_eq_true_iff, decide_eq_true_iff]
      exact le_total _ _
  have hperm : (sortCategories l).Perm (sortCategories l') :=
    (List.mergeSort_perm _ _).trans (h.trans (List.mergeSort_perm _ _).symm)
  refine List.Perm.eq_of_pairwise ?_ (hsorted l) (hsorted l') hperm
  intro a b _ _ hab hba
  rw [decide_eq_true_iff] at hab hba
  exact hinj a b (le_antisymm hab hba)

/-- Two grids over the same months and categories. -/
theorem trendBuckets_eq_iff {dates : List Date} {categories : List ExpenseCategory}
    {totals totals' : Dict (Date × ExpenseCategory) Numeric} :
    trendBuckets dates categories totals = trendBuckets dates categories totals' ↔
      ∀ m ∈ dates, ∀ c ∈ categories, totals.getD (m, c) 0 = totals'.getD (m, c) 0 := by
  have hmap : ∀ t : Dict (Date × ExpenseCategory) Numeric, trendBuckets dates categories t =
      (dates.product categories).map (fun p => ⟨p.1, p.2, t.getD p 0⟩) := by
    intro t
    rw [trendBuckets, List.product, List.map_flatMap]
    simp only [List.map_map]
    rfl
  rw [hmap, hmap, List.map_inj_left]
  constructor
  · intro h m hm c hc
    have hcell := h (m, c) (List.pair_mem_product.2 ⟨hm, hc⟩)
    exact congrArg TrendBucket.total hcell
  · intro h p hp
    obtain ⟨hm, hc⟩ := List.pair_mem_product.1 hp
    rw [h p.1 hm p.2 hc]

/-- Labels that are no firsts of months are never found. -/
theorem getD_ofPairs_of_east {totals : List ((Date × ExpenseCategory) × Numeric)}
    (h : ∀ p ∈ totals, p.1.1.day ≠ 1) {m : Date} (hm : m.day = 1) (c : ExpenseCategory) :
    (Dict.ofPairs totals).getD (m, c) 0 = 0 := by
  have hnot : (m, c) ∉ totals.map Prod.fst := by
    intro hmem
    obtain ⟨p, hp, hkey⟩ := List.mem_map.1 hmem
    apply h p hp
    rw [hkey]
    exact hm
  rw [Dict.getD, Dict.ofPairs_of_not_mem hnot, Option.getD_none]

/-! ## Windows outside the calendar -/

/-- The window ends in the last month of the calendar, or starts before the first. -/
def LeavesCalendar (anchor : Date) (n : ℕ) : Prop :=
  anchor.monthIndex < 12 + n ∨ 12 * 10000 ≤ anchor.monthIndex

instance (anchor : Date) (n : ℕ) : Decidable (LeavesCalendar anchor n) :=
  inferInstanceAs (Decidable (_ ∨ _))

theorem pyDate_error {year : ℤ} (h : year < 1 ∨ 9999 < year) (month day : ℤ) :
    ∃ msg, pyDate year month day = .error (.valueError msg) := by
  have hnone : Date.of? year.toNat month.toNat day.toNat = none := by
    rw [Date.of?, dif_neg]
    rintro ⟨hlow, hhigh, -⟩
    omega
  rw [pyDate, hnone]
  simp only [if_pos h]
  exact ⟨_, rfl⟩

theorem monthsBack_error (anchor : Date) {n : ℕ} (h : anchor.monthIndex < 13 + n) :
    ∃ msg, monthsBack anchor n = .error (.valueError msg) := by
  obtain ⟨hy, hy', hm, hm', -, -⟩ := anchor.isDate
  rw [Date.monthIndex] at h
  obtain ⟨hindex, hlow, hhigh⟩ := wrapMonth_spec anchor.year (anchor.month - n) (by omega)
  rw [monthsBack]
  exact pyDate_error (Or.inl (by omega)) _ _

theorem monthBounds_error {d : Date} (h : 12 * 10000 ≤ d.monthIndex) :
    ∃ msg, monthBounds d = .error (.valueError msg) := by
  obtain ⟨hy, hy', hm, hm', -, -⟩ := d.isDate
  rw [Date.monthIndex] at h
  have hlast : d.firstOfMonth.month = 12 := by
    show d.month = 12
    omega
  have hyear : (9999 : ℤ) < d.firstOfMonth.year + 1 := by
    show (9999 : ℤ) < d.year + 1
    omega
  obtain ⟨msg, hraise⟩ := pyDate_error (Or.inr hyear) 1 1
  refine ⟨msg, ?_⟩
  rw [monthBounds]
  simp only [if_pos hlast]
  rw [hraise]
  rfl

section run

variable {env : Env} {w : World Unit}

/-- Outside the calendar the trends raise before the database is asked. -/
theorem answer_of_leavesCalendar {anchor : Date} {months : ℤ}
    (h : LeavesCalendar anchor (trendMonths months)) (userId : UUID) :
    ∃ msg, ∀ order zone,
      answer env w (categoryTrends order zone userId anchor months) = .error (.valueError msg) := by
  obtain ⟨n, hn⟩ : ∃ n, (max 1 (min months maxTrendsMonths)).toNat = n := ⟨_, rfl⟩
  have hpos : 1 ≤ n := by omega
  rw [trendMonths, hn] at h
  by_cases hfirst : anchor.monthIndex < 12 + n
  · obtain ⟨msg, hstart⟩ := monthsBack_error anchor.firstOfMonth (n := n - 1)
      (by rw [Date.monthIndex_firstOfMonth]; omega)
    refine ⟨msg, fun order zone => ?_⟩
    rw [answer, categoryTrends]
    simp only [hn, hstart, Prog.bind_eq, Prog.ofExcept_error]
    rfl
  · obtain ⟨start, hstart, -, -⟩ := monthsBack_ok anchor.firstOfMonth (n := n - 1)
      (by rw [Date.monthIndex_firstOfMonth]; omega)
    obtain ⟨msg, hstop⟩ := monthBounds_error (d := anchor.firstOfMonth) (h.resolve_left hfirst)
    refine ⟨msg, fun order zone => ?_⟩
    rw [answer, categoryTrends]
    simp only [hn, hstart, hstop, Prog.bind_eq, Prog.ofExcept_ok, Prog.ofExcept_error,
      Prog.bind_ret]
    rfl

end run

/-! ## Two time zones -/

/-- No row of the window is in the first month of the calendar, and the window's rows of
every month and category add up to nothing. -/
def NothingSpent (rows : List Expense) (userId : UUID) (anchor : Date) (n : ℕ) : Prop :=
  ∀ e ∈ rows, e.userId = userId → anchor.monthIndex < e.expenseDate.monthIndex + n →
    e.expenseDate.monthIndex ≤ anchor.monthIndex →
    13 < e.expenseDate.monthIndex ∧
      sumAmount ((monthRows rows userId e.expenseDate.monthIndex).filter
        (fun f => f.category = e.category)) = 0

/-- What the trends answer with a fixed offset, inside the calendar. -/
structure Pivot (found : List Expense) (dates : List Date) (categories : List ExpenseCategory)
    (o : ℤ) (buckets : Except PyExc (List TrendBucket)) : Prop where
  west : ¬0 < o → ∃ totals : Dict (Date × ExpenseCategory) Numeric,
    buckets = .ok (trendBuckets dates categories totals) ∧
      ∀ m c, totals.getD (m, c) 0 = sumAmount (rowsOf monthAndCategory found (m, c))
  east : 0 < o →
    ((∃ e ∈ found, e.expenseDate.monthIndex = 13) ∧ buckets = .error .overflowError) ∨
      (∀ e ∈ found, 13 < e.expenseDate.monthIndex) ∧
        buckets = .ok (trendBuckets dates categories Dict.empty)

/-- The pivot of some rows, in an order of the database. -/
theorem pivot_of_groups (order : RowOrder) (o : ℤ) (found : List Expense) {dates : List Date}
    (hdates : ∀ d ∈ dates, d.day = 1) {groups : List ((Date × ExpenseCategory) × List Expense)}
    (hgroups : groups = order.arrange (groupBy monthAndCategory found)) :
    Pivot found dates (sortCategories (found.map Expense.category).dedup) o
      ((groups.mapM (trendRow (Zone.fixed o))).map (fun totals =>
        trendBuckets dates (sortCategories (groups.map (fun g => g.1.2)).dedup)
          (Dict.ofPairs totals))) := by
  have hperm : groups.Perm (groupBy monthAndCategory found) := by
    rw [hgroups]
    exact order.perm _
  have hgroup : ∀ e ∈ found,
      (monthAndCategory e, rowsOf monthAndCategory found (monthAndCategory e)) ∈ groups := by
    intro e he
    exact hperm.mem_iff.2 (mem_groupBy.2 ⟨⟨e, he, rfl⟩, rfl⟩)
  have hcategories : sortCategories (groups.map (fun g => g.1.2)).dedup =
      sortCategories (found.map Expense.category).dedup := by
    apply sortCategories_perm
    rw [List.perm_ext_iff_of_nodup (List.nodup_dedup _) (List.nodup_dedup _)]
    intro c
    rw [List.mem_dedup, List.mem_dedup, List.mem_map, List.mem_map]
    constructor
    · rintro ⟨g, hg, rfl⟩
      obtain ⟨⟨e, he, hkey⟩, -⟩ := mem_groupBy.1 (hperm.mem_iff.1 hg)
      exact ⟨e, he, congrArg Prod.snd hkey⟩
    · rintro ⟨e, he, rfl⟩
      exact ⟨_, hgroup e he, rfl⟩
  have hmonth : ∀ g ∈ groups, ∃ e ∈ found, e.expenseDate.firstOfMonth = g.1.1 := by
    intro g hg
    obtain ⟨⟨e, he, hkey⟩, -⟩ := mem_groupBy.1 (hperm.mem_iff.1 hg)
    exact ⟨e, he, congrArg Prod.fst hkey⟩
  rw [hcategories]
  constructor
  · intro ho
    refine ⟨_, by rw [mapM_trendRow_west ho]; rfl, fun m c => ?_⟩
    exact Dict.getD_ofPairs_groupBy hperm sumAmount (m, c)
  · intro ho
    have hfirst : ∀ g ∈ groups, g.1.1.day = 1 := by
      intro g hg
      obtain ⟨e, -, he⟩ := hmonth g hg
      rw [← he]
      exact Date.day_firstOfMonth _
    obtain ⟨⟨g, hg, hindex⟩, hraise⟩ | ⟨hall, totals, htotals, hdays⟩ := mapM_trendRow_east ho hfirst
    · obtain ⟨e, he, hmonth⟩ := hmonth g hg
      rw [← hmonth, Date.monthIndex_firstOfMonth] at hindex
      exact Or.inl ⟨⟨e, he, hindex⟩, by rw [hraise]; rfl⟩
    · refine Or.inr ⟨?_, ?_⟩
      · intro e he
        exact hall _ (hgroup e he)
      · rw [htotals]
        show Except.ok _ = Except.ok _
        rw [Except.ok.injEq, trendBuckets_eq_iff]
        intro m hm c _
        rw [getD_ofPairs_of_east hdays (hdates m hm) c, Dict.getD_empty]

/-- One pivot not east of UTC and one east of it. -/
theorem Pivot.eq_iff {found : List Expense} {dates : List Date}
    {categories : List ExpenseCategory} {o o' : ℤ} {b b' : Except PyExc (List TrendBucket)}
    (h : Pivot found dates categories o b) (h' : Pivot found dates categories o' b')
    (ho : ¬0 < o) (ho' : 0 < o') :
    b = b' ↔ (∀ e ∈ found, 13 < e.expenseDate.monthIndex) ∧
      ∀ m ∈ dates, ∀ c ∈ categories, sumAmount (rowsOf monthAndCategory found (m, c)) = 0 := by
  obtain ⟨totals, rfl, htotals⟩ := h.west ho
  obtain ⟨⟨e, he, hindex⟩, rfl⟩ | ⟨hlater, rfl⟩ := h'.east ho'
  · constructor
    · intro heq
      cases heq
    · rintro ⟨hall, -⟩
      have := hall e he
      omega
  · rw [Except.ok.injEq, trendBuckets_eq_iff]
    simp only [htotals, Dict.getD_empty]
    exact ⟨fun hzero => ⟨hlater, hzero⟩, fun hzero => hzero.2⟩

/-- Two pivots on one side. -/
theorem Pivot.eq_of_same {found : List Expense} {dates : List Date}
    {categories : List ExpenseCategory} {o o' : ℤ} {b b' : Except PyExc (List TrendBucket)}
    (h : Pivot found dates categories o b) (h' : Pivot found dates categories o' b')
    (ho : 0 < o ↔ 0 < o') : b = b' := by
  by_cases hpos : 0 < o
  · obtain ⟨⟨e, he, hindex⟩, rfl⟩ | ⟨hlater, rfl⟩ := h.east hpos
    · obtain ⟨-, rfl⟩ | ⟨hlater, -⟩ := h'.east (ho.1 hpos)
      · rfl
      · have := hlater e he
        omega
    · obtain ⟨⟨e, he, hindex⟩, -⟩ | ⟨-, rfl⟩ := h'.east (ho.1 hpos)
      · have := hlater e he
        omega
      · rfl
  · obtain ⟨totals, rfl, htotals⟩ := h.west hpos
    obtain ⟨totals', rfl, htotals'⟩ := h'.west (fun h => hpos (ho.2 h))
    rw [Except.ok.injEq, trendBuckets_eq_iff]
    intro m _ c _
    rw [htotals, htotals']

/-- The window's rows have nothing to show. -/
theorem nothingSpent_iff (rows : List Expense) (userId : UUID) {anchor start stop : Date} {n : ℕ}
    {dates : List Date}
    (hdates : List.Forall₂ (fun i d => d.day = 1 ∧ d.monthIndex + i = anchor.monthIndex)
      (List.range n).reverse dates)
    (hstart : start.day = 1) (hstartIndex : start.monthIndex + n = anchor.monthIndex + 1)
    (hstop : stop.day = 1) (hstopIndex : stop.monthIndex = anchor.monthIndex + 1) :
    ((∀ e ∈ rows.filter (isSpentIn userId start stop), 13 < e.expenseDate.monthIndex) ∧
        ∀ m ∈ dates, ∀ c ∈ sortCategories
            ((rows.filter (isSpentIn userId start stop)).map Expense.category).dedup,
          sumAmount (rowsOf monthAndCategory (rows.filter (isSpentIn userId start stop)) (m, c)) =
            0) ↔
      NothingSpent rows userId anchor n := by
  have hmem : ∀ e, e ∈ rows.filter (isSpentIn userId start stop) ↔ e ∈ rows ∧
      e.userId = userId ∧ anchor.monthIndex < e.expenseDate.monthIndex + n ∧
        e.expenseDate.monthIndex ≤ anchor.monthIndex := by
    intro e
    rw [List.mem_filter, isSpentIn_iff hstart hstop]
    constructor
    · rintro ⟨he, hu, hlow, hhigh⟩
      exact ⟨he, hu, by omega, by omega⟩
    · rintro ⟨he, hu, hlow, hhigh⟩
      exact ⟨he, hu, by omega, by omega⟩
  obtain ⟨hleft, hright⟩ := exists_of_forall₂ hdates
  have hdate : ∀ m ∈ dates, m.day = 1 ∧ start.monthIndex ≤ m.monthIndex ∧
      m.monthIndex < stop.monthIndex := by
    intro m hm
    obtain ⟨i, hi, hday, hindex⟩ := hright m hm
    have hi := List.mem_range.1 (List.mem_reverse.1 hi)
    exact ⟨hday, by omega, by omega⟩
  constructor
  · rintro ⟨hlater, hzero⟩ e he hu hlow hhigh
    have hfound := (hmem e).2 ⟨he, hu, hlow, hhigh⟩
    refine ⟨hlater e hfound, ?_⟩
    -- the month of the row is one of the dates
    obtain ⟨m, hm, hday, hindex⟩ := hleft (anchor.monthIndex - e.expenseDate.monthIndex)
      (List.mem_reverse.2 (List.mem_range.2 (by omega)))
    obtain ⟨-, hstartLe, hltStop⟩ := hdate m hm
    have hcell := hzero m hm e.category (by
      rw [sortCategories, List.mem_mergeSort, List.mem_dedup]
      exact List.mem_map_of_mem hfound)
    rw [rowsOf_cell hstart hstop hday hstartLe hltStop] at hcell
    have hsame : m.monthIndex = e.expenseDate.monthIndex := by omega
    rw [← hsame]
    exact hcell
  · intro hnothing
    constructor
    · intro e he
      obtain ⟨he, hu, hlow, hhigh⟩ := (hmem e).1 he
      exact (hnothing e he hu hlow hhigh).1
    · intro m hm c _
      obtain ⟨hday, hstartLe, hltStop⟩ := hdate m hm
      rw [rowsOf_cell hstart hstop hday hstartLe hltStop]
      rcases hcell : (monthRows rows userId m.monthIndex).filter (fun e => e.category = c) with _ | ⟨e, l⟩
      · rw [hcell]
        rfl
      · have he : e ∈ (monthRows rows userId m.monthIndex).filter (fun e => e.category = c) := by
          rw [hcell]
          exact List.mem_cons_self
        obtain ⟨he, hc⟩ := List.mem_filter.1 he
        obtain ⟨he, hu, hindex⟩ := mem_monthRows.1 he
        have hspent := (hnothing e he hu (by omega) (by omega)).2
        rw [hindex, of_decide_eq_true hc] at hspent
        exact hspent

/-- The buckets of the trends, or what is raised. -/
def bucketsWith (env : Env) (w : World Unit) (order : RowOrder) (offset : ℤ) (userId : UUID)
    (anchor : Date) (months : ℤ) : Except PyExc (List TrendBucket) :=
  (answer env w (categoryTrends order (Zone.fixed offset) userId anchor months)).map
    CategoryTrends.buckets

section offsets

variable {env : Env} {w : World Unit} {userId : UUID} {anchor : Date} {months : ℤ}

/-- Inside the calendar the trends are a pivot, with nothing in it exactly if nothing was
spent in the window. -/
theorem pivot_bucketsWith (hdb : ∀ n, env.fault n = .none) (hf : w.failed () = false)
    (hcal : ¬LeavesCalendar anchor (trendMonths months)) :
    ∃ (found : List Expense) (dates : List Date) (categories : List ExpenseCategory),
      (∀ order o, Pivot found dates categories o
        (bucketsWith env w order o userId anchor months)) ∧
      (((∀ e ∈ found, 13 < e.expenseDate.monthIndex) ∧ ∀ m ∈ dates, ∀ c ∈ categories,
          sumAmount (rowsOf monthAndCategory found (m, c)) = 0) ↔
        NothingSpent w.seenExpenses userId anchor (trendMonths months)) := by
  have hinside : 12 + trendMonths months ≤ anchor.monthIndex ∧
      anchor.monthIndex < 12 * 10000 := by
    rw [LeavesCalendar, not_or] at hcal
    omega
  obtain ⟨dates, start, stop, hdates, hstart, hstartIndex, hstop, hstopIndex, hanswer⟩ :=
    answer_categoryTrends (w := w) hdb hf userId (n := trendMonths months) rfl hinside.1 hinside.2
  have hday : ∀ d ∈ dates, d.day = 1 := by
    intro d hd
    obtain ⟨i, -, hday, -⟩ := (exists_of_forall₂ hdates).2 d hd
    exact hday
  refine ⟨_, dates, _, ?_, nothingSpent_iff w.seenExpenses userId hdates hstart hstartIndex hstop
    hstopIndex⟩
  intro order o
  have hgroups := pivot_of_groups order o
    (w.seenExpenses.filter (isSpentIn userId start stop)) hday rfl
  rw [bucketsWith, hanswer order (Zone.fixed o) _ rfl]
  generalize List.mapM (trendRow (Zone.fixed o)) _ = totals at hgroups ⊢
  cases totals with
  | error ex => exact hgroups
  | ok totals => exact hgroups

/-- One session not east of UTC and one east of it. -/
theorem bucketsWith_eq_iff_of_mixed (hdb : ∀ n, env.fault n = .none) (hf : w.failed () = false)
    (hcal : ¬LeavesCalendar anchor (trendMonths months)) (order order' : RowOrder) {o o' : ℤ}
    (ho : ¬0 < o) (ho' : 0 < o') :
    bucketsWith env w order o userId anchor months =
        bucketsWith env w order' o' userId anchor months ↔
      NothingSpent w.seenExpenses userId anchor (trendMonths months) := by
  obtain ⟨found, dates, categories, hpivot, hnothing⟩ := pivot_bucketsWith hdb hf hcal
  rw [(hpivot order o).eq_iff (hpivot order' o') ho ho', hnothing]

/-- **The offset of the session shows in the trends** exactly when one offset is east of
UTC and the other is not, the window is inside the calendar and there is something to
show in it. -/
theorem sameBuckets_iff (hdb : ∀ n, env.fault n = .none) (hf : w.failed () = false)
    (order order' : RowOrder) (o o' : ℤ) (userId : UUID) (anchor : Date) (months : ℤ) :
    bucketsWith env w order o userId anchor months =
        bucketsWith env w order' o' userId anchor months ↔
      (0 < o ↔ 0 < o') ∨ LeavesCalendar anchor (trendMonths months) ∨
        NothingSpent w.seenExpenses userId anchor (trendMonths months) := by
  by_cases hcal : LeavesCalendar anchor (trendMonths months)
  · obtain ⟨ex, hraise⟩ := answer_of_leavesCalendar hcal userId
    rw [bucketsWith, bucketsWith, hraise order, hraise order']
    exact ⟨fun _ => Or.inr (Or.inl hcal), fun _ => rfl⟩
  · by_cases hside : 0 < o ↔ 0 < o'
    · obtain ⟨found, dates, categories, hpivot, -⟩ := pivot_bucketsWith (w := w) hdb hf hcal
      exact ⟨fun _ => Or.inl hside, fun _ => (hpivot order o).eq_of_same (hpivot order' o') hside⟩
    · -- one is east of UTC and the other is not
      have hmixed : bucketsWith env w order o userId anchor months =
            bucketsWith env w order' o' userId anchor months ↔
          NothingSpent w.seenExpenses userId anchor (trendMonths months) := by
        by_cases ho : 0 < o
        · have ho' : ¬0 < o' := fun h => hside ⟨fun _ => h, fun _ => ho⟩
          rw [eq_comm]
          exact bucketsWith_eq_iff_of_mixed hdb hf hcal order' order ho' ho
        · have ho' : 0 < o' := by
            by_contra h
            exact hside ⟨fun hx => absurd hx ho, fun hx => absurd hx h⟩
          exact bucketsWith_eq_iff_of_mixed hdb hf hcal order order' ho ho'
      rw [hmixed]
      constructor
      · exact fun h => Or.inr (Or.inr h)
      · rintro (h | h | h)
        · exact absurd h hside
        · exact absurd h hcal
        · exact h

end offsets

/-- Two sessions that are not east of UTC. -/
theorem sameBuckets_iff_sample :
    bucketsWith Env.quiet yearEndWorld RowOrder.asStored (-300) 7 ⟨2026, 1, 15, by decide⟩ 2 =
      bucketsWith Env.quiet yearEndWorld RowOrder.asStored 0 7 ⟨2026, 1, 15, by decide⟩ 2 :=
  (sameBuckets_iff (fun n => (rfl : Env.quiet.fault n = .none)) rfl RowOrder.asStored
    RowOrder.asStored (-300) 0 7 ⟨2026, 1, 15, by decide⟩ 2).2 (Or.inl (by decide))

/-- An hour east of UTC the refund of the year's end is not in the buckets. -/
theorem not_sameBuckets_east :
    bucketsWith Env.quiet yearEndWorld RowOrder.asStored 0 7 ⟨2026, 1, 15, by decide⟩ 1 ≠
      bucketsWith Env.quiet yearEndWorld RowOrder.asStored 60 7 ⟨2026, 1, 15, by decide⟩ 1 := by
  rw [Ne, bucketsWith_eq_iff_of_mixed (fun n => (rfl : Env.quiet.fault n = .none)) rfl
    (by decide) RowOrder.asStored RowOrder.asStored (by decide) (by decide)]
  intro hnothing
  have hcell := hnothing (yearEndWorld.seenExpenses.get ⟨1, by decide⟩) (List.get_mem _ _) rfl
    (by decide) (by decide)
  exact absurd hcell.2 (by decide)

end SpendLens
