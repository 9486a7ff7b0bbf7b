/-
# Windows of months

The loop of `monthsBack` carries a month that is not positive into earlier years, and ends.  On
month indices it is a subtraction.  So the months a window is made of follow each other without a
gap, from the first month of the window to the end of the anchor's own.
-/
import SpendLens.TrendZones
import SpendLens.Lib.Intervals

namespace SpendLens

open Intervals

/-! ## The loop -/

/-- The body of the loop of `monthsBack`, on a year and a month. -/
def carryMonth (s : ℤ × ℤ) : ℤ × ℤ := (s.1 - 1, s.2 + 12)

/-- The loop ends after `k` rounds: the month is positive then, and was not before. -/
def LoopEnds (s : ℤ × ℤ) (k : ℕ) : Prop :=
  0 < (carryMonth^[k] s).2 ∧ ∀ j < k, (carryMonth^[j] s).2 ≤ 0

/-- **The loop ends**, and what it ends with is what `wrapMonth` says. -/
theorem loopEnds (year month : ℤ) :
    ∃ k, LoopEnds (year, month) k ∧ carryMonth^[k] (year, month) = wrapMonth year month := by
  induction year, month using wrapMonth.induct with
  | case1 year month hneg ih =>
      obtain ⟨k, ⟨hpos, hbefore⟩, heq⟩ := ih
      have hstep : ∀ j, carryMonth^[j + 1] (year, month) =
          carryMonth^[j] (year - 1, month + 12) := fun j => rfl
      refine ⟨k + 1, ⟨by rw [hstep]; exact hpos, fun j hj => ?_⟩, ?_⟩
      · -- the first round is due, the others are those of the rest
        rcases Nat.eq_zero_or_pos j with rfl | hj'
        · exact hneg
        · obtain ⟨i, rfl⟩ : ∃ i, j = i + 1 := ⟨j - 1, by omega⟩
          rw [hstep]
          exact hbefore i (by omega)
      · rw [hstep, heq]
        conv_rhs => rw [wrapMonth, if_pos hneg]
  | case2 year month hpos =>
      refine ⟨0, ⟨?_, fun j hj => absurd hj (Nat.not_lt_zero j)⟩, ?_⟩
      · show 0 < month
        omega
      · rw [wrapMonth, if_neg hpos]
        rfl

/-! ## The months of a window -/

/-- The bounds of the `n` months up to the anchor's, the earliest first. -/
def monthIntervals (anchor : Date) (n : ℕ) : Except PyExc (List (Date × Date)) :=
  (List.range n).reverse.mapM (fun i => monthsBack anchor i >>= monthBounds)

theorem monthIntervals_succ (anchor : Date) (n : ℕ) :
    monthIntervals anchor (n + 1) = (monthsBack anchor n >>= monthBounds) >>= fun I =>
      (monthIntervals anchor n).map (I :: ·) := by
  rw [monthIntervals, List.range_succ, List.reverse_append, List.reverse_singleton,
    List.singleton_append, List.mapM_cons]
  rfl

/-- The months from any first day to the end of the anchor's month. -/
theorem tiles_monthIntervals {anchor stop : Date} (hstop : stop.day = 1)
    (hindex : stop.monthIndex = anchor.monthIndex + 1) (hlast : anchor.monthIndex < 12 * 10000)
    (n : ℕ) : ∀ {start : Date}, start.day = 1 → start.monthIndex + n = anchor.monthIndex + 1 →
      ∃ months, monthIntervals anchor n = .ok months ∧ months.length = n ∧
        Tiles start months stop := by
  induction n with
  | zero =>
      intro start hday hstart
      refine ⟨[], rfl, rfl, ?_⟩
      show start = stop
      exact Date.eq_of_monthIndex hday hstop (by omega)
  | succ n ih =>
      intro start hday hstart
      have hge := Date.monthIndex_ge start
      obtain ⟨d, hd, hdday, hdindex⟩ := monthsBack_ok anchor (n := n) (by omega)
      obtain rfl : d = start := Date.eq_of_monthIndex hdday hday (by omega)
      obtain ⟨next, hbounds, hnday, hnindex⟩ := monthBounds_ok (d := d) (by omega)
      have hfirst : d.firstOfMonth = d :=
        Date.eq_of_monthIndex (Date.day_firstOfMonth d) hday (Date.monthIndex_firstOfMonth d)
      rw [hfirst] at hbounds
      obtain ⟨months, hmonths, hlen, htiles⟩ := ih hnday (by omega)
      have hbind : (monthsBack anchor n >>= monthBounds) = .ok (d, next) := by
        rw [hd]
        exact hbounds
      refine ⟨(d, next) :: months, ?_, by rw [List.length_cons, hlen], rfl, ?_, htiles⟩
      · rw [monthIntervals_succ, hbind, hmonths]
        rfl
      · show d < next
        rw [Date.lt_iff_of_day_one hnday]
        omega

/-- **Months tile the calendar.**  Where no date leaves the calendar, the loop ends, going back is
subtraction on the month index, and the months from `n - 1` back to the anchor's own follow each
other from the first of the earliest to the end of the anchor's, with every date in between in
exactly one of them. -/
theorem months_tile {anchor : Date} {n : ℕ} (hn : 1 ≤ n) (h : ¬LeavesCalendar anchor n) :
    (∀ i < n, (∃ k, LoopEnds (anchor.year, anchor.month - i) k) ∧
      ∃ d, monthsBack anchor i = .ok d ∧ d.day = 1 ∧
        (12 * d.year + d.month : ℤ) = 12 * anchor.year + anchor.month - i) ∧
    ∃ start first stop months, monthsBack anchor (n - 1) = .ok start ∧
      monthBounds anchor = .ok (first, stop) ∧ monthIntervals anchor n = .ok months ∧
      months.length = n ∧ Tiles start months stop ∧
      months.Pairwise (fun I J => I.2 ≤ J.1) ∧
      ∀ d, months.countP (fun I => Intervals.Contains I d) = if start ≤ d ∧ d < stop then 1 else 0 := by
  rw [LeavesCalendar, not_or, not_lt, not_le] at h
  obtain ⟨hlow, hhigh⟩ := h
  constructor
  · intro i hi
    obtain ⟨k, hends, -⟩ := loopEnds anchor.year (anchor.month - i)
    obtain ⟨d, hd, hday, hindex⟩ := monthsBack_ok anchor (n := i) (by omega)
    rw [Date.monthIndex, Date.monthIndex] at hindex
    exact ⟨⟨k, hends⟩, d, hd, hday, by omega⟩
  · obtain ⟨start, hstart, hday, hindex⟩ := monthsBack_ok anchor (n := n - 1) (by omega)
    obtain ⟨stop, hbounds, hstop, hnext⟩ := monthBounds_ok hhigh
    obtain ⟨months, hmonths, hlen, htiles⟩ :=
      tiles_monthIntervals hstop hnext hhigh n hday (by omega)
    exact ⟨start, anchor.firstOfMonth, stop, months, hstart, hbounds, hmonths, hlen, htiles,
      htiles.disjoint, htiles.countP_contains⟩

/-- A day at the start of a year. -/
def newYear : Date := ⟨2026, 1, 17, by decide⟩

/-- The months from the middle of 2024 to the end of January 2026. -/
theorem months_tile_sample :
    (∀ i < (20 : ℕ), (∃ k, LoopEnds (newYear.year, newYear.month - i) k) ∧
      ∃ d, monthsBack newYear i = .ok d ∧ d.day = 1 ∧
        (12 * d.year + d.month : ℤ) = 12 * newYear.year + newYear.month - i) ∧
    ∃ start first stop months, monthsBack newYear (20 - 1) = .ok start ∧
      monthBounds newYear = .ok (first, stop) ∧ monthIntervals newYear 20 = .ok months ∧
      months.length = 20 ∧ Tiles start months stop ∧
      months.Pairwise (fun I J => I.2 ≤ J.1) ∧
      ∀ d, months.countP (fun I => Intervals.Contains I d) = if start ≤ d ∧ d < stop then 1 else 0 :=
  months_tile (by decide) (by decide)

end SpendLens
