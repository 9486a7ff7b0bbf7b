/-
# Calendar dates

A `Date` carries the proof that it exists: year 1 to 9999, and a day of its month.
The module has the operations the services use: the order, the first of the
month, day arithmetic through ordinals, and the ISO text form in both
directions, where the reader is the one of the language and accepts more than
the writer produces (`fromisoformat_isoformat` is the round trip).
-/
import SpendLens.PyText
import Mathlib.Order.Lattice
import Mathlib.Tactic.Linarith

namespace SpendLens

/-! ## Dates -/

def isLeap (y : ℕ) : Bool := y % 4 = 0 && (y % 100 ≠ 0 || y % 400 = 0)

def daysInMonth (y m : ℕ) : ℕ :=
  match m with
  | 2 => if isLeap y then 29 else 28
  | 4 => 30
  | 6 => 30
  | 9 => 30
  | 11 => 30
  | _ => 31

/-- The numbers of an existing day. -/
def IsDate (y m d : ℕ) : Prop :=
  1 ≤ y ∧ y ≤ 9999 ∧ 1 ≤ m ∧ m ≤ 12 ∧ 1 ≤ d ∧ d ≤ daysInMonth y m

instance (y m d : ℕ) : Decidable (IsDate y m d) :=
  inferInstanceAs (Decidable (_ ∧ _ ∧ _ ∧ _ ∧ _ ∧ _))

/-- A day of the calendar. -/
structure Date where
  year : ℕ
  month : ℕ
  day : ℕ
  isDate : IsDate year month day
  deriving DecidableEq

theorem daysInMonth_le (y m : ℕ) : daysInMonth y m ≤ 31 := by
  unfold daysInMonth
  split <;> first | omega | (split <;> omega)

theorem daysInMonth_ge (y m : ℕ) : 28 ≤ daysInMonth y m := by
  unfold daysInMonth
  split <;> first | omega | (split <;> omega)

namespace Date

/-- `date(y, m, d)`, which raises `ValueError` on numbers that are no day. -/
def of? (y m d : ℕ) : Option Date :=
  if h : IsDate y m d then some ⟨y, m, d, h⟩ else none

/-- Days in order, as one number. -/
def rank (d : Date) : ℕ := (d.year * 12 + d.month) * 32 + d.day

theorem rank_injective : Function.Injective rank := by
  intro a b hrank
  obtain ⟨y, m, d, h⟩ := a
  obtain ⟨y', m', d', h'⟩ := b
  have hnum : (y * 12 + m) * 32 + d = (y' * 12 + m') * 32 + d' := hrank
  have h₁ := daysInMonth_le y m
  have h₂ := daysInMonth_le y' m'
  obtain ⟨-, -, hm, hm', -, hd⟩ := h
  obtain ⟨-, -, hn, hn', -, hd'⟩ := h'
  have hy : y = y' := by omega
  have hmm : m = m' := by omega
  have hdd : d = d' := by omega
  subst hy hmm hdd
  rfl

instance : LinearOrder Date := LinearOrder.lift' rank rank_injective

theorem lt_iff {a b : Date} : a < b ↔ a.rank < b.rank := Iff.rfl

theorem le_iff {a b : Date} : a ≤ b ↔ a.rank ≤ b.rank := Iff.rfl

/-- `month.replace(day=1)`. -/
def firstOfMonth (d : Date) : Date :=
  ⟨d.year, d.month, 1, by
    have := daysInMonth_ge d.year d.month
    obtain ⟨h₁, h₂, h₃, h₄, -, -⟩ := d.isDate
    exact ⟨h₁, h₂, h₃, h₄, le_refl 1, by omega⟩⟩

/-- Months in order, as one number. -/
def monthIndex (d : Date) : ℕ := 12 * d.year + d.month

theorem monthIndex_ge (d : Date) : 13 ≤ d.monthIndex := by
  obtain ⟨hy, -, hm, -, -, -⟩ := d.isDate
  rw [monthIndex]
  omega

@[simp] theorem day_firstOfMonth (d : Date) : d.firstOfMonth.day = 1 := rfl

@[simp] theorem monthIndex_firstOfMonth (d : Date) :
    d.firstOfMonth.monthIndex = d.monthIndex := rfl

/-- The first of a month is the first day of it. -/
theorem le_iff_of_day_one {a b : Date} (ha : a.day = 1) : a ≤ b ↔ a.monthIndex ≤ b.monthIndex := by
  rw [le_iff, rank, rank, monthIndex, monthIndex]
  have hb := daysInMonth_le b.year b.month
  obtain ⟨-, -, -, -, hday, hlast⟩ := b.isDate
  omega

theorem lt_iff_of_day_one {a b : Date} (hb : b.day = 1) : a < b ↔ a.monthIndex < b.monthIndex := by
  rw [← not_le, le_iff_of_day_one hb, not_le]

/-- There is one first day in a month. -/
theorem eq_of_monthIndex {a b : Date} (ha : a.day = 1) (hb : b.day = 1)
    (h : a.monthIndex = b.monthIndex) : a = b :=
  le_antisymm ((le_iff_of_day_one ha).2 (le_of_eq h)) ((le_iff_of_day_one hb).2 (le_of_eq h.symm))

theorem eq_firstOfMonth {a b : Date} (ha : a.day = 1) (h : a.monthIndex = b.monthIndex) :
    a = b.firstOfMonth :=
  eq_of_monthIndex ha (day_firstOfMonth b) h

/-! ## Ordinals -/

/-- The days before the first of January of a year. -/
def daysBeforeYear (y : ℕ) : ℕ :=
  let y := y - 1
  y * 365 + y / 4 - y / 100 + y / 400

/-- The days of a year before the first of a month. -/
def daysBeforeMonth (y m : ℕ) : ℕ :=
  ((List.range (m - 1)).map (fun i => daysInMonth y (i + 1))).sum

/-- `toordinal`: the first of January of year 1 is day 1. -/
def ordinal (d : Date) : ℕ := daysBeforeYear d.year + daysBeforeMonth d.year d.month + d.day

/-- `fromordinal`, by cycles of 400, 100, 4 and 1 years. -/
def ofOrdinal? (n : ℕ) : Option Date :=
  let n := n - 1
  let n400 := n / 146097
  let n := n % 146097
  let n100 := n / 36524
  let n := n % 36524
  let n4 := n / 1461
  let n := n % 1461
  let n1 := n / 365
  let n := n % 365
  let year := n400 * 400 + 1 + n100 * 100 + n4 * 4 + n1
  if n1 = 4 ∨ n100 = 4 then of? (year - 1) 12 31
  else
    let month := (n + 50) / 32
    let month := if daysBeforeMonth year month > n then month - 1 else month
    of? year month (n - daysBeforeMonth year month + 1)

/-- `d + timedelta(days=k)`, which raises `OverflowError` outside the calendar. -/
def addDays? (d : Date) (k : ℤ) : Option Date :=
  let n := (d.ordinal : ℤ) + k
  if 1 ≤ n ∧ n ≤ 3652059 then ofOrdinal? n.toNat else none

example : (of? 2024 3 1).bind (fun d => d.addDays? (-1)) = of? 2024 2 29 := by decide

theorem daysInMonth_congr {y y' : ℕ} (h : isLeap y = isLeap y') (m : ℕ) :
    daysInMonth y m = daysInMonth y' m := by
  unfold daysInMonth
  rw [h]

theorem daysBeforeMonth_congr {y y' : ℕ} (h : isLeap y = isLeap y') (m : ℕ) :
    daysBeforeMonth y m = daysBeforeMonth y' m := by
  rw [daysBeforeMonth, daysBeforeMonth]
  congr 1
  exact List.map_congr_left (fun i _ => daysInMonth_congr h (i + 1))

/-- The month `fromordinal` guesses from the day of the year. -/
def monthOfDay (y n : ℕ) : ℕ :=
  if daysBeforeMonth y ((n + 50) / 32) > n then (n + 50) / 32 - 1 else (n + 50) / 32

/-- The month of a day of the year, by the two kinds of year. -/
theorem monthOfDay_table :
    ∀ y ∈ [1, 4], ∀ m : Fin 13, ∀ d : Fin 32, 1 ≤ m.val → 1 ≤ d.val → d.val ≤ daysInMonth y m →
      daysBeforeMonth y m + d - 1 < 365 + (isLeap y).toNat ∧
      monthOfDay y (daysBeforeMonth y m + d - 1) = m ∧
      (daysBeforeMonth y m + d = 365 + (isLeap y).toNat → m.val = 12 ∧ d.val = 31) := by
  decide

theorem monthOfDay_eq {y m d : ℕ} (h : IsDate y m d) :
    daysBeforeMonth y m + d - 1 < 365 + (isLeap y).toNat ∧
      monthOfDay y (daysBeforeMonth y m + d - 1) = m ∧
      (daysBeforeMonth y m + d = 365 + (isLeap y).toNat → m = 12 ∧ d = 31) := by
  obtain ⟨-, -, hm, hm', hd, hd'⟩ := h
  have hle := daysInMonth_le y m
  obtain ⟨y', hy', hleap⟩ : ∃ y' ∈ [1, 4], isLeap y = isLeap y' := by
    by_cases hl : isLeap y = true
    · exact ⟨4, by decide, hl.trans (by decide)⟩
    · exact ⟨1, by decide, (Bool.eq_false_iff.2 hl).trans (by decide)⟩
  have htable := monthOfDay_table y' hy' ⟨m, by omega⟩ ⟨d, by omega⟩ hm hd
    (by rw [← daysInMonth_congr hleap]; exact hd')
  rw [monthOfDay, hleap, daysBeforeMonth_congr hleap, daysBeforeMonth_congr hleap]
  exact htable

/-- The cycles of a year: 400, 100, 4 and 1 years. -/
theorem year_cycles {y : ℕ} (hy : 1 ≤ y) :
    ∃ a b c e, b ≤ 3 ∧ c ≤ 24 ∧ e ≤ 3 ∧ y = a * 400 + 1 + b * 100 + c * 4 + e ∧
      daysBeforeYear y = 146097 * a + 36524 * b + 1461 * c + 365 * e ∧
      (isLeap y).toNat = if e = 3 ∧ (c ≠ 24 ∨ b = 3) then 1 else 0 := by
  obtain ⟨a, b, c, e, hb, hc, he, hk⟩ : ∃ a b c e, b ≤ 3 ∧ c ≤ 24 ∧ e ≤ 3 ∧
      y - 1 = 400 * a + 100 * b + 4 * c + e :=
    ⟨(y - 1) / 400, (y - 1) % 400 / 100, (y - 1) % 100 / 4, (y - 1) % 4, by omega, by omega,
      by omega, by omega⟩
  refine ⟨a, b, c, e, hb, hc, he, by omega, ?_, ?_⟩
  · rw [daysBeforeYear, hk]
    omega
  · have hiff : isLeap y = true ↔ e = 3 ∧ (c ≠ 24 ∨ b = 3) := by
      simp only [isLeap, Bool.and_eq_true, Bool.or_eq_true, decide_eq_true_eq]
      omega
    by_cases hl : isLeap y = true
    · rw [if_pos (hiff.1 hl), hl]
      rfl
    · rw [if_neg (fun hx => hl (hiff.2 hx)), Bool.eq_false_iff.2 hl]
      rfl

/-- The cycles are found back in a number of days, the last day of a leap year apart. -/
theorem cycles_of_days {b c e r : ℕ} (hb : b ≤ 3) (hc : c ≤ 24) (he : e ≤ 3) (hr : r < 365) (a : ℕ) :
    (146097 * a + (36524 * b + (1461 * c + (365 * e + r)))) / 146097 = a ∧
    (146097 * a + (36524 * b + (1461 * c + (365 * e + r)))) % 146097 =
      36524 * b + (1461 * c + (365 * e + r)) ∧
    (36524 * b + (1461 * c + (365 * e + r))) / 36524 = b ∧
    (36524 * b + (1461 * c + (365 * e + r))) % 36524 = 1461 * c + (365 * e + r) ∧
    (1461 * c + (365 * e + r)) / 1461 = c ∧
    (1461 * c + (365 * e + r)) % 1461 = 365 * e + r ∧
    (365 * e + r) / 365 = e ∧ (365 * e + r) % 365 = r := by
  refine ⟨?_, ?_, ?_, ?_, ?_, ?_, ?_, ?_⟩ <;> omega

/-- The last day of a leap year. -/
theorem ofOrdinal?_of_last {a b c y : ℕ} (hb : b ≤ 3) (hc : c ≤ 24) (hcb : c ≠ 24 ∨ b = 3)
    (hy : y = a * 400 + 1 + b * 100 + c * 4 + 3) :
    ofOrdinal? (146097 * a + (36524 * b + (1461 * c + 1460)) + 1) = of? y 12 31 := by
  obtain ⟨k, hk⟩ : ∃ k, k = 1460 := ⟨_, rfl⟩
  rw [← hk, ofOrdinal?, Nat.add_sub_cancel]
  have h400 : (146097 * a + (36524 * b + (1461 * c + k))) / 146097 = a := by omega
  have h400' : (146097 * a + (36524 * b + (1461 * c + k))) % 146097 =
      36524 * b + (1461 * c + k) := by omega
  simp only [h400, h400']
  by_cases hc24 : c = 24
  · have hcycle : (36524 * b + (1461 * c + k)) / 36524 = 4 := by omega
    have hrest : (36524 * b + (1461 * c + k)) % 36524 = 0 := by omega
    simp only [hcycle, hrest, Nat.zero_div, Nat.zero_mod]
    rw [if_pos (Or.inr trivial)]
    congr 1
    omega
  · have hcycle : (36524 * b + (1461 * c + k)) / 36524 = b := by omega
    have hrest : (36524 * b + (1461 * c + k)) % 36524 = 1461 * c + k := by omega
    have hfour : (1461 * c + k) / 1461 = c := by omega
    have hone : (1461 * c + k) % 1461 = k := by omega
    have hyears : k / 365 = 4 := by omega
    simp only [hcycle, hrest, hfour, hone, hyears]
    rw [if_pos (Or.inl trivial)]
    congr 1
    omega

/-- **Round trip**: the date of an ordinal. -/
theorem ofOrdinal?_ordinal (d : Date) : ofOrdinal? d.ordinal = some d := by
  obtain ⟨y, m, d, h⟩ := d
  obtain ⟨hlt, hmonth, hlast⟩ := monthOfDay_eq h
  obtain ⟨a, b, c, e, hb, hc, he, hy, hbefore, hleap⟩ := year_cycles h.1
  have hd : 1 ≤ d := h.2.2.2.2.1
  have hof : of? y m d = some ⟨y, m, d, h⟩ := dif_pos h
  obtain ⟨q, hq⟩ : ∃ q, q = daysBeforeMonth y m := ⟨_, rfl⟩
  obtain ⟨r, hr⟩ : ∃ r, r = q + d - 1 := ⟨_, rfl⟩
  rw [← hq, ← hr] at hlt hmonth
  rw [← hq] at hlast
  have hsum : ordinal ⟨y, m, d, h⟩ = 146097 * a + (36524 * b + (1461 * c + (365 * e + r))) + 1 := by
    rw [ordinal]
    simp only [hbefore, ← hq]
    omega
  rw [hleap] at hlt hlast
  rw [hsum]
  by_cases hr365 : r < 365
  · obtain ⟨h400, h400', h100, h100', h4, h4', h1, h1'⟩ := cycles_of_days hb hc he hr365 a
    rw [ofOrdinal?, Nat.add_sub_cancel]
    simp only [h400, h400', h100, h100', h4, h4', h1, h1', ← hy]
    rw [if_neg (by omega)]
    rw [monthOfDay] at hmonth
    rw [hmonth, ← hq, ← hof]
    congr 1
    omega
  · have hyear : e = 3 ∧ (c ≠ 24 ∨ b = 3) := by
      by_contra hx
      rw [if_neg hx] at hlt
      omega
    rw [if_pos hyear] at hlast hlt
    obtain ⟨rfl, rfl⟩ := hlast (by omega)
    obtain ⟨rfl, hcb⟩ := hyear
    have hrest : 365 * 3 + r = 1460 := by omega
    rw [hrest, ofOrdinal?_of_last hb hc hcb hy, hof]

/-- The ordinals of the calendar. -/
theorem ordinal_bounds (d : Date) : 1 ≤ d.ordinal ∧ d.ordinal ≤ 3652059 := by
  obtain ⟨hlt, -, -⟩ := monthOfDay_eq d.isDate
  obtain ⟨a, b, c, e, hb, hc, he, hy, hbefore, hleap⟩ := year_cycles d.isDate.1
  have hyear : d.year ≤ 9999 := d.isDate.2.1
  have hday : 1 ≤ d.day := d.isDate.2.2.2.2.1
  have hr : daysBeforeMonth d.year d.month + d.day ≤ 365 + (isLeap d.year).toNat := by omega
  have hone : (isLeap d.year).toNat ≤ 1 := Bool.toNat_le _
  -- the year before is in one of 24 cycles of 400 years, or among the first 399 of another
  have hcases : a ≤ 23 ∨ a ≤ 24 ∧ b ≤ 2 ∨ a ≤ 24 ∧ c ≤ 23 ∨ a ≤ 24 ∧ e ≤ 2 := by
    clear hr hleap hone hbefore hlt
    omega
  rw [ordinal, hbefore]
  constructor
  · exact Nat.le_add_left_of_le hday
  · obtain ha | ⟨ha, hrest⟩ | ⟨ha, hrest⟩ | ⟨ha, hrest⟩ := hcases
    · linarith
    · linarith
    · linarith
    · have hnot : ¬(e = 3 ∧ (c ≠ 24 ∨ b = 3)) := fun h => by omega
      rw [if_neg hnot] at hleap
      linarith

/-- A date a number of days away. -/
theorem addDays?_eq_some {d d' : Date} {k : ℤ} (h : (d'.ordinal : ℤ) = d.ordinal + k) :
    d.addDays? k = some d' := by
  obtain ⟨hlow, hhigh⟩ := ordinal_bounds d'
  rw [addDays?]
  simp only [← h]
  rw [if_pos (by omega), Int.toNat_natCast, ofOrdinal?_ordinal]

/-- The days of a year. -/
theorem daysBeforeYear_succ {y : ℕ} (hy : 1 ≤ y) :
    daysBeforeYear (y + 1) = daysBeforeYear y + 365 + (isLeap y).toNat := by
  rw [daysBeforeYear, daysBeforeYear, Nat.add_sub_cancel]
  have hiff : isLeap y = true ↔ y % 4 = 0 ∧ (y % 100 ≠ 0 ∨ y % 400 = 0) := by
    simp only [isLeap, Bool.and_eq_true, Bool.or_eq_true, decide_eq_true_eq]
  have hleap : (isLeap y).toNat + (if y % 100 = 0 then 1 else 0) =
      (if y % 4 = 0 then 1 else 0) + if y % 400 = 0 then 1 else 0 := by
    have h100 : y % 100 = 0 → y % 4 = 0 := by omega
    have h400 : y % 400 = 0 → y % 100 = 0 := by omega
    by_cases hl : isLeap y = true
    · obtain ⟨h4, hcycle⟩ := hiff.1 hl
      rw [hl, if_pos h4]
      by_cases h : y % 100 = 0
      · rw [if_pos h, if_pos (hcycle.resolve_left (fun hx => hx h))]
        rfl
      · rw [if_neg h, if_neg (fun hx => h (h400 hx))]
        rfl
    · rw [Bool.eq_false_iff.2 hl]
      rw [hiff, not_and_or, not_or, not_not] at hl
      by_cases h4 : y % 4 = 0
      · obtain ⟨h, hcycle⟩ := hl.resolve_left (fun hx => hx h4)
        rw [if_pos h, if_pos h4, if_neg hcycle]
        rfl
      · rw [if_neg (fun hx => h4 (h100 hx)), if_neg h4, if_neg (fun hx => h4 (h100 (h400 hx)))]
        rfl
  have hquot : ∀ k, 0 < k → y / k = (y - 1) / k + if y % k = 0 then 1 else 0 := by
    intro k hk
    obtain ⟨n, rfl⟩ : ∃ n, y = n + 1 := ⟨y - 1, by omega⟩
    rw [Nat.add_sub_cancel, Nat.succ_div]
    by_cases h : k ∣ n + 1
    · rw [if_pos h, if_pos (Nat.eq_zero_of_dvd_of_lt ((Nat.dvd_mod_iff (dvd_refl k)).2 h)
        (Nat.mod_lt _ hk))]
    · rw [if_neg h, if_neg (fun hx => h (Nat.dvd_of_mod_eq_zero hx))]
  have hfour := hquot 4 (by omega)
  have hhundred := hquot 100 (by omega)
  have hcycle := hquot 400 (by omega)
  have hle : (y - 1) / 100 ≤ (y - 1) / 4 := Nat.div_le_div_left (by omega) (by omega)
  generalize (if y % 4 = 0 then 1 else 0) = u at hfour hleap
  generalize (if y % 100 = 0 then 1 else 0) = v at hhundred hleap
  generalize (if y % 400 = 0 then 1 else 0) = t at hcycle hleap
  rw [hfour, hhundred, hcycle]
  generalize (y - 1) / 4 = p at hle ⊢
  generalize (y - 1) / 100 = q at hle ⊢
  omega

theorem daysBeforeYear_end (y : ℕ) : daysBeforeMonth y 12 + 31 = 365 + (isLeap y).toNat := by
  cases hl : isLeap y with
  | true =>
      rw [daysBeforeMonth_congr (hl.trans (show true = isLeap 4 by decide))]
      decide
  | false =>
      rw [daysBeforeMonth_congr (hl.trans (show false = isLeap 1 by decide))]
      decide

theorem daysBeforeMonth_succ (y m : ℕ) :
    daysBeforeMonth y (m + 2) = daysBeforeMonth y (m + 1) + daysInMonth y (m + 1) := by
  rw [daysBeforeMonth, daysBeforeMonth, show m + 2 - 1 = m + 1 from rfl, Nat.add_sub_cancel,
    List.range_succ, List.map_append, List.sum_append]
  rfl

/-- The day before the first of a month is in the month before, and is not a first. -/
theorem exists_ordinal_of_first {d : Date} (hd : d.day = 1) (h : 13 < d.monthIndex) :
    ∃ p : Date, p.ordinal + 1 = d.ordinal ∧ p.day ≠ 1 ∧ p.month ≠ d.month := by
  obtain ⟨y, m, day, hdate⟩ := d
  obtain rfl : day = 1 := hd
  have hindex : 13 < 12 * y + m := h
  obtain ⟨hy, hy', hm, hm', -, -⟩ := hdate
  by_cases hjan : m = 1
  · obtain ⟨k, rfl⟩ : ∃ k, y = k + 1 := ⟨y - 1, by omega⟩
    have his : IsDate k 12 31 := ⟨by omega, by omega, by omega, le_refl 12, by omega, le_refl 31⟩
    have hyear := daysBeforeYear_succ his.1
    have hend := daysBeforeYear_end k
    have hone : daysBeforeMonth (k + 1) m = 0 := by rw [hjan]; rfl
    refine ⟨⟨k, 12, 31, his⟩, ?_, ?_, ?_⟩
    · rw [ordinal, ordinal]
      simp only
      omega
    · show 31 ≠ 1
      omega
    · show 12 ≠ m
      omega
  · obtain ⟨k, rfl⟩ : ∃ k, m = k + 2 := ⟨m - 2, by omega⟩
    have hge := daysInMonth_ge y (k + 1)
    have his : IsDate y (k + 1) (daysInMonth y (k + 1)) :=
      ⟨hy, hy', by omega, by omega, by omega, le_refl _⟩
    have hmonth := daysBeforeMonth_succ y k
    refine ⟨⟨y, k + 1, daysInMonth y (k + 1), his⟩, ?_, ?_, ?_⟩
    · rw [ordinal, ordinal]
      simp only
      omega
    · show daysInMonth y (k + 1) ≠ 1
      omega
    · show k + 1 ≠ k + 2
      omega

theorem addDays?_neg_one {d : Date} (hd : d.day = 1) (h : 13 < d.monthIndex) :
    ∃ p : Date, d.addDays? (-1) = some p ∧ p.day ≠ 1 := by
  obtain ⟨p, hp, hday, -⟩ := exists_ordinal_of_first hd h
  exact ⟨p, addDays?_eq_some (by omega), hday⟩

/-- Every day but the first has a day before it. -/
theorem exists_ordinal_pred {d : Date} (h : 1 < d.ordinal) : ∃ p : Date, p.ordinal + 1 = d.ordinal := by
  by_cases hd : d.day = 1
  · by_cases hfirst : d.monthIndex = 13
    · have hday : d = ⟨1, 1, 1, by decide⟩ := eq_of_monthIndex hd rfl hfirst
      rw [hday] at h
      exact absurd h (by decide)
    · obtain ⟨p, hp, -⟩ := exists_ordinal_of_first hd
        (lt_of_le_of_ne (monthIndex_ge d) (Ne.symm hfirst))
      exact ⟨p, hp⟩
  · obtain ⟨y, m, day, hy, hy', hm, hm', hlow, hhigh⟩ := d
    have hday : day ≠ 1 := hd
    refine ⟨⟨y, m, day - 1, hy, hy', hm, hm', by omega, by omega⟩, ?_⟩
    rw [ordinal, ordinal]
    simp only
    omega

/-- **Every number of the calendar is a day.** -/
theorem exists_ordinal {n : ℕ} (h : 1 ≤ n) (h' : n ≤ 3652059) : ∃ d : Date, d.ordinal = n := by
  obtain ⟨k, hk⟩ := Nat.exists_eq_add_of_le h'
  induction k generalizing n with
  | zero => exact ⟨⟨9999, 12, 31, by decide⟩, by rw [Nat.add_zero] at hk; rw [← hk]; decide⟩
  | succ k ih =>
      obtain ⟨d, hd⟩ := ih (n := n + 1) (by omega) (by omega) (by omega)
      obtain ⟨p, hp⟩ := exists_ordinal_pred (d := d) (by omega)
      exact ⟨p, by omega⟩

/-- Going back a number of days stays in the calendar, or does not. -/
theorem addDays?_neg_eq_none_iff {d : Date} {k : ℕ} :
    d.addDays? (-k) = none ↔ d.ordinal ≤ k := by
  obtain ⟨hlow, hhigh⟩ := ordinal_bounds d
  constructor
  · intro h
    by_contra hk
    obtain ⟨p, hp⟩ := exists_ordinal (n := d.ordinal - k) (by omega) (by omega)
    have hsum : (p.ordinal : ℤ) = d.ordinal + -k := by omega
    rw [addDays?_eq_some hsum] at h
    cases h
  · intro h
    rw [addDays?]
    exact if_neg (by omega)

/-! ## Text -/

/-- The character of a decimal digit. -/
def digitChar (n : ℕ) : Char := Char.ofNat (48 + n)

/-- The value of an ASCII digit. -/
def digitVal (c : Char) : Option ℕ :=
  if 48 ≤ c.toNat ∧ c.toNat ≤ 57 then some (c.toNat - 48) else none

theorem digitVal_digitChar {n : ℕ} (h : n < 10) : digitVal (digitChar n) = some n := by
  have key : ∀ m : Fin 10, digitVal (digitChar m) = some m.val := by decide
  exact key ⟨n, h⟩

/-- A number with leading zeros. -/
def pad2 (n : ℕ) : List Char := [digitChar (n / 10 % 10), digitChar (n % 10)]

/-- A number with leading zeros. -/
def pad4 (n : ℕ) : List Char :=
  [digitChar (n / 1000 % 10), digitChar (n / 100 % 10), digitChar (n / 10 % 10),
    digitChar (n % 10)]

/-- `isoformat`, on characters. -/
def isoChars (d : Date) : List Char := pad4 d.year ++ '-' :: pad2 d.month ++ '-' :: pad2 d.day

/-- `isoformat`. -/
def isoformat (d : Date) : String := String.ofList d.isoChars

/-- Read `k` ASCII digits. -/
def parseDigits : ℕ → ℕ → List Char → Option (ℕ × List Char)
  | 0, acc, cs => some (acc, cs)
  | _ + 1, _, [] => none
  | k + 1, acc, c :: cs => (digitVal c).bind (fun v => parseDigits k (acc * 10 + v) cs)

theorem parseDigits_pad2 {n : ℕ} (h : n < 100) (cs : List Char) :
    parseDigits 2 0 (pad2 n ++ cs) = some (n, cs) := by
  have h₁ := digitVal_digitChar (show n / 10 % 10 < 10 by omega)
  have h₂ := digitVal_digitChar (show n % 10 < 10 by omega)
  simp only [pad2, List.cons_append, List.nil_append, parseDigits, h₁, h₂, Option.bind_some,
    Option.some.injEq, Prod.mk.injEq, and_true]
  omega

theorem parseDigits_pad4 {n : ℕ} (h : n < 10000) (cs : List Char) :
    parseDigits 4 0 (pad4 n ++ cs) = some (n, cs) := by
  have h₁ := digitVal_digitChar (show n / 1000 % 10 < 10 by omega)
  have h₂ := digitVal_digitChar (show n / 100 % 10 < 10 by omega)
  have h₃ := digitVal_digitChar (show n / 10 % 10 < 10 by omega)
  have h₄ := digitVal_digitChar (show n % 10 < 10 by omega)
  simp only [pad4, List.cons_append, List.nil_append, parseDigits, h₁, h₂, h₃, h₄,
    Option.bind_some, Option.some.injEq, Prod.mk.injEq, and_true]
  omega

/-- The number of days from the first Monday of ISO week 1 to the first of January. -/
def isoWeekOneMonday (y : ℕ) : ℤ :=
  let firstDay : ℤ := daysBeforeYear y + 1
  let firstWeekday := (firstDay + 6) % 7
  let monday := firstDay - firstWeekday
  if firstWeekday > 3 then monday + 7 else monday

/-- `fromisocalendar`: a week of a year and a day of the week. -/
def ofIsoWeek? (y week wday : ℕ) : Option Date :=
  if 1 ≤ y ∧ y ≤ 9999 ∧ 1 ≤ wday ∧ wday ≤ 7 ∧ 1 ≤ week ∧
      (week ≤ 52 ∨ (week = 53 ∧ isoWeekOneMonday (y + 1) - isoWeekOneMonday y = 371)) then
    let n := isoWeekOneMonday y + (week - 1) * 7 + (wday - 1)
    if 1 ≤ n ∧ n ≤ 3652059 then ofOrdinal? n.toNat else none
  else none

/-- The body of `fromisoformat`, which ignores what follows the fields. -/
def fromIsoChars (cs : List Char) : Option Date := do
  let (year, cs) ← parseDigits 4 0 cs
  let sep := cs.head? = some '-'
  let cs := if sep then cs.tail else cs
  if cs.head? = some 'W' then
    let (week, cs) ← parseDigits 2 0 cs.tail
    match cs with
    | [] => ofIsoWeek? year week 1
    | c :: rest =>
        if sep then
          if c = '-' then (parseDigits 1 0 rest).bind (fun p => ofIsoWeek? year week p.1) else none
        else (parseDigits 1 0 cs).bind (fun p => ofIsoWeek? year week p.1)
  else
    let (month, cs) ← parseDigits 2 0 cs
    if sep then
      if cs.head? = some '-' then
        (parseDigits 2 0 cs.tail).bind (fun p => of? year month p.1)
      else none
    else (parseDigits 2 0 cs).bind (fun p => of? year month p.1)

/-- `date.fromisoformat`; `none` is its `ValueError`.  The length is in bytes. -/
def fromisoformat (s : String) : Option Date :=
  let len := (s.toList.map Char.utf8Size).sum
  if len = 7 ∨ len = 8 ∨ len = 10 then fromIsoChars s.toList else none

example : fromisoformat "2024-W09-4" = of? 2024 2 29 := by decide +kernel

theorem digitChar_utf8Size {n : ℕ} (h : n < 10) : (digitChar n).utf8Size = 1 := by
  have key : ∀ m : Fin 10, (digitChar m).utf8Size = 1 := by decide
  exact key ⟨n, h⟩

theorem isoChars_utf8 (d : Date) : (d.isoChars.map Char.utf8Size).sum = 10 := by
  have h : ∀ n, (digitChar (n % 10)).utf8Size = 1 := fun n => digitChar_utf8Size (by omega)
  have hdash : ('-' : Char).utf8Size = 1 := rfl
  simp [isoChars, pad4, pad2, h, hdash]

/-- **Round trip**: the reader accepts what the writer produces. -/
theorem fromisoformat_isoformat (d : Date) : fromisoformat d.isoformat = some d := by
  obtain ⟨h₁, h₂, h₃, h₄, h₅, h₆⟩ := d.isDate
  have h₇ := daysInMonth_le d.year d.month
  have hy := parseDigits_pad4 (n := d.year) (by omega) ('-' :: (pad2 d.month ++ '-' :: pad2 d.day))
  have hm := parseDigits_pad2 (n := d.month) (by omega) ('-' :: pad2 d.day)
  have hd := parseDigits_pad2 (n := d.day) (by omega) []
  have hW : (pad2 d.month ++ '-' :: pad2 d.day).head? ≠ some 'W' := by
    have key : ∀ m : Fin 10, digitChar m ≠ 'W' := by decide
    intro h
    rw [pad2, List.cons_append, List.head?_cons, Option.some.injEq] at h
    exact key ⟨d.month / 10 % 10, by omega⟩ h
  have hof : of? d.year d.month d.day = some d := by rw [of?, dif_pos d.isDate]
  rw [fromisoformat, isoformat, String.toList_ofList, isoChars_utf8, if_pos (by omega)]
  rw [List.append_nil] at hd
  simp only [fromIsoChars, isoChars, List.append_assoc, List.cons_append, hy, hm, hd, hof, hW,
    Option.bind_eq_bind, Option.bind_some, List.head?_cons, List.tail_cons, if_true,
    if_false]

end Date

end SpendLens
