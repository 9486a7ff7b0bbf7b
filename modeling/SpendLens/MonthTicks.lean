/-
# Labels of the trend chart

The chart gets the first day of each month as text.  `new Date` makes it the instant of midnight in
UTC, and `toLocaleString` names the month of that instant where the browser is.  West of UTC it is
still the evening before, so that every label names the month before its own.
-/
import SpendLens.AnalyticsAgreement

namespace SpendLens

/-! ## Instants and zones -/

/-- How far local time is ahead of UTC, in seconds: less than a day. -/
structure UtcOffset where
  seconds : ℤ
  inRange : |seconds| < 86400

/-- The offset of a browser at each instant, which is counted in seconds from 1970. -/
abbrev BrowserZone : Type := ℤ → UtcOffset

/-- The number of the first of January 1970. -/
def unixEpoch : ℤ := 719163

/-- Midnight in UTC. -/
def utcMidnight (d : Date) : ℤ := (d.ordinal - unixEpoch) * 86400

/-- The month of a numbered day, in a calendar without a first or a last day: it repeats every 400
years. -/
def monthOfDay (n : ℤ) : ℕ :=
  ((Date.ofOrdinal? (((n - 1) % 146097).toNat + 1)).map Date.month).getD 0

/-- The number of the local day of an instant. -/
def dayIn (zone : BrowserZone) (t : ℤ) : ℤ := (t + (zone t).seconds) / 86400 + unixEpoch

/-! ## The label -/

/-- A date of the form `YYYY-MM-DD`. -/
def parseDateOnly (iso : String) : Option Date := do
  let (year, cs) ← Date.parseDigits 4 0 iso.toList
  if cs.head? = some '-' then
    let (month, cs) ← Date.parseDigits 2 0 cs.tail
    if cs.head? = some '-' then
      let (day, cs) ← Date.parseDigits 2 0 cs.tail
      if cs.isEmpty then Date.of? year month day else none
    else none
  else none

/-- `new Date(iso)` of a date without a time; `none` is an invalid date. -/
def newDate (iso : String) : Option ℤ := (parseDateOnly iso).map utcMidnight

/-- The short names of the months, in English. -/
def monthNames : List String :=
  ["Jan", "Feb", "Mar", "Apr", "May", "Jun", "Jul", "Aug", "Sep", "Oct", "Nov", "Dec"]

def shortMonth (month : ℕ) : String := monthNames.getD (month - 1) ""

/-- `toLocaleString('en', …)` with the short month. -/
def toLocaleMonth (zone : BrowserZone) (t : ℤ) : String := shortMonth (monthOfDay (dayIn zone t))

def formatMonthTick (zone : BrowserZone) (iso : String) : String :=
  match newDate iso with
  | some t => toLocaleMonth zone t
  | none => "Invalid Date"

/-! ## Days and months -/

/-- A date of the first 400 years. -/
theorem ordinal_le_cycle {d : Date} (h : d.year ≤ 400) : d.ordinal ≤ 146097 := by
  obtain ⟨hlt, -, -⟩ := Date.monthOfDay_eq d.isDate
  have hstep := Date.daysBeforeYear_succ d.isDate.1
  have hend : Date.daysBeforeYear (d.year + 1) ≤ 146097 := by
    rw [Date.daysBeforeYear, Nat.add_sub_cancel]
    omega
  have hday : 1 ≤ d.day := d.isDate.2.2.2.2.1
  rw [Date.ordinal]
  omega

/-- The date with the same place in the first 400 years. -/
theorem exists_in_cycle (d : Date) :
    ∃ (p : Date) (k : ℕ), p.year ≤ 400 ∧ p.month = d.month ∧ d.ordinal = p.ordinal + 146097 * k := by
  obtain ⟨y, m, day, hy, hy', hm, hm', hd, hd'⟩ := d
  obtain ⟨k, z, hz, hyz⟩ : ∃ k z, z < 400 ∧ y = z + 1 + 400 * k :=
    ⟨(y - 1) / 400, (y - 1) % 400, Nat.mod_lt _ (by omega), by omega⟩
  have hleap : isLeap y = isLeap (z + 1) := by
    have h4 : y % 4 = (z + 1) % 4 := by omega
    have h100 : y % 100 = (z + 1) % 100 := by omega
    have h400 : y % 400 = (z + 1) % 400 := by omega
    rw [isLeap, isLeap, h4, h100, h400]
  have hbefore : Date.daysBeforeYear y = Date.daysBeforeYear (z + 1) + 146097 * k := by
    rw [Date.daysBeforeYear, Date.daysBeforeYear, Nat.add_sub_cancel]
    have hpred : y - 1 = z + 400 * k := by omega
    rw [hpred]
    omega
  have his : IsDate (z + 1) m day :=
    ⟨by omega, by omega, hm, hm', hd, by rw [← Date.daysInMonth_congr hleap m]; exact hd'⟩
  refine ⟨⟨z + 1, m, day, his⟩, k, by show z + 1 ≤ 400; omega, rfl, ?_⟩
  show Date.daysBeforeYear y + Date.daysBeforeMonth y m + day =
    Date.daysBeforeYear (z + 1) + Date.daysBeforeMonth (z + 1) m + day + 146097 * k
  rw [hbefore, Date.daysBeforeMonth_congr hleap]
  omega

/-- **The month of the day of a date** is the month of the date. -/
theorem monthOfDay_ordinal (d : Date) : monthOfDay d.ordinal = d.month := by
  obtain ⟨p, k, hyear, hmonth, hordinal⟩ := exists_in_cycle d
  have hlow := (Date.ordinal_bounds p).1
  have hhigh := ordinal_le_cycle hyear
  have hmod : (((d.ordinal : ℤ) - 1) % 146097).toNat + 1 = p.ordinal := by omega
  rw [monthOfDay, hmod, Date.ofOrdinal?_ordinal, Option.map_some, Option.getD_some, hmonth]

/-- The day before the first of a month is in another month. -/
theorem monthOfDay_before_first {d : Date} (hd : d.day = 1) :
    monthOfDay (d.ordinal - 1) ≠ d.month := by
  by_cases hfirst : d.monthIndex = 13
  · -- the day before the calendar, with the months of the 400th year
    have hday : d = ⟨1, 1, 1, by decide⟩ := Date.eq_of_monthIndex hd rfl hfirst
    rw [hday]
    decide
  · have hlater : 13 < d.monthIndex := lt_of_le_of_ne (Date.monthIndex_ge d) (Ne.symm hfirst)
    obtain ⟨p, hp, -, hmonth⟩ := Date.exists_ordinal_of_first hd hlater
    have hpred : (d.ordinal : ℤ) - 1 = p.ordinal := by omega
    rw [hpred, monthOfDay_ordinal]
    exact hmonth

theorem shortMonth_injective {m m' : ℕ} (hm : 1 ≤ m ∧ m ≤ 12) (hm' : 1 ≤ m' ∧ m' ≤ 12)
    (h : shortMonth m = shortMonth m') : m = m' := by
  have key : ∀ a b : Fin 13, 1 ≤ a.val → 1 ≤ b.val → shortMonth a = shortMonth b → a = b := by
    decide
  have hfin := key ⟨m, by omega⟩ ⟨m', by omega⟩ hm.1 hm'.1 h
  exact Fin.mk.inj hfin

/-! ## Labels of first days -/

/-- The text of a date is read back. -/
theorem parseDateOnly_isoformat (d : Date) : parseDateOnly d.isoformat = some d := by
  obtain ⟨-, hy, -, hm, -, hd⟩ := d.isDate
  have hle := daysInMonth_le d.year d.month
  have hyear := Date.parseDigits_pad4 (n := d.year) (by omega)
    ('-' :: (Date.pad2 d.month ++ '-' :: Date.pad2 d.day))
  have hmonth := Date.parseDigits_pad2 (n := d.month) (by omega) ('-' :: Date.pad2 d.day)
  have hday := Date.parseDigits_pad2 (n := d.day) (by omega) []
  rw [List.append_nil] at hday
  have hof : Date.of? d.year d.month d.day = some d := dif_pos d.isDate
  rw [parseDateOnly, Date.isoformat, String.toList_ofList, Date.isoChars]
  simp only [List.append_assoc, List.cons_append, hyear, hmonth, hday, hof, Option.bind_eq_bind,
    Option.bind_some, List.head?_cons, List.tail_cons, List.isEmpty_nil, if_true]

theorem formatMonthTick_isoformat (zone : BrowserZone) (d : Date) :
    formatMonthTick zone d.isoformat = toLocaleMonth zone (utcMidnight d) := by
  rw [formatMonthTick, newDate, parseDateOnly_isoformat]
  rfl

/-- Not west of UTC, midnight in UTC is on the same day. -/
theorem dayIn_east {zone : BrowserZone} {d : Date} (h : 0 ≤ (zone (utcMidnight d)).seconds) :
    dayIn zone (utcMidnight d) = d.ordinal := by
  have hrange := abs_lt.1 (zone (utcMidnight d)).inRange
  rw [dayIn]
  generalize (zone (utcMidnight d)).seconds = o at h hrange
  rw [utcMidnight, unixEpoch]
  omega

/-- West of UTC it is on the day before. -/
theorem dayIn_west {zone : BrowserZone} {d : Date} (h : (zone (utcMidnight d)).seconds < 0) :
    dayIn zone (utcMidnight d) = d.ordinal - 1 := by
  have hrange := abs_lt.1 (zone (utcMidnight d)).inRange
  rw [dayIn]
  generalize (zone (utcMidnight d)).seconds = o at h hrange
  rw [utcMidnight, unixEpoch]
  omega

/-- The label of a first day names its month exactly where UTC is not ahead of the browser. -/
theorem tick_iff {zone : BrowserZone} {d : Date} (hd : d.day = 1) :
    formatMonthTick zone d.isoformat = shortMonth d.month ↔
      0 ≤ (zone (utcMidnight d)).seconds := by
  have hmonths : ∀ p : Date, 1 ≤ p.month ∧ p.month ≤ 12 :=
    fun p => ⟨p.isDate.2.2.1, p.isDate.2.2.2.1⟩
  rw [formatMonthTick_isoformat, toLocaleMonth]
  constructor
  · intro h
    by_contra hneg
    rw [dayIn_west (not_le.1 hneg)] at h
    obtain ⟨p, hp⟩ : ∃ p : Date, monthOfDay ((d.ordinal : ℤ) - 1) = p.month := by
      by_cases hfirst : d.monthIndex = 13
      · have hday : d = ⟨1, 1, 1, by decide⟩ := Date.eq_of_monthIndex hd rfl hfirst
        rw [hday]
        exact ⟨⟨400, 12, 31, by decide⟩, by decide⟩
      · have hlater : 13 < d.monthIndex := lt_of_le_of_ne (Date.monthIndex_ge d) (Ne.symm hfirst)
        obtain ⟨p, hp, -⟩ := Date.exists_ordinal_of_first hd hlater
        have hpred : (d.ordinal : ℤ) - 1 = p.ordinal := by omega
        exact ⟨p, by rw [hpred, monthOfDay_ordinal]⟩
    rw [hp] at h
    apply monthOfDay_before_first hd
    rw [hp]
    exact shortMonth_injective (hmonths p) (hmonths d) h
  · intro h
    rw [dayIn_east h, monthOfDay_ordinal]

/-! ## What the trends emit -/

theorem pyDate_day {year month : ℤ} {d : Date} (h : pyDate year month 1 = .ok d) : d.day = 1 := by
  rw [pyDate] at h
  split at h
  · rename_i d' hof
    obtain rfl := Except.ok.inj h
    rw [Date.of?] at hof
    split at hof
    · cases hof
      rfl
    · cases hof
  · split at h
    · cases h
    · split at h <;> cases h

theorem monthsBack_day {anchor d : Date} {n : ℕ} (h : monthsBack anchor n = .ok d) : d.day = 1 :=
  pyDate_day h

/-- The months of the trends are first days, whatever the database answers. -/
theorem firsts_categoryTrends (order : RowOrder) (zone : Zone) (userId : UUID) (anchor : Date)
    (months : ℤ) :
    (categoryTrends order zone userId anchor months).Respects (fun _ => True) (fun _ _ => True)
      (fun trends => ∀ d ∈ trends.months, d.day = 1) (fun _ => True) := by
  have hdates : ∀ {l : List ℕ} {dates : List Date}, l.mapM (monthsBack anchor.firstOfMonth) =
      .ok dates → ∀ d ∈ dates, d.day = 1 := by
    intro l
    induction l with
    | nil =>
        intro dates h d hd
        obtain rfl : [] = dates := Except.ok.inj h
        cases hd
    | cons i l ih =>
        intro dates h d hd
        rw [List.mapM_cons] at h
        obtain ⟨first, hfirst, h⟩ := Fallible.bind_eq_ok.1 h
        obtain ⟨rest, hrest, h⟩ := Fallible.bind_eq_ok.1 h
        obtain rfl : first :: rest = dates := Except.ok.inj h
        rcases List.mem_cons.1 hd with rfl | hmem
        · exact monthsBack_day hfirst
        · exact ih hrest d hmem
  unfold categoryTrends
  have hany : ∀ {α : Type} (r : Except PyExc α),
      (Prog.ofExcept r : Service α).Respects (fun _ => True) (fun _ _ => True)
        (fun a => r = .ok a) (fun _ => True) :=
    fun r => Prog.Respects.ofExcept (fun _ h => h) (fun _ _ => trivial)
  have hread : ∀ p, (sql (.selectExpenses [] p)).Asks (fun _ => True) :=
    fun p => Prog.Asks.perform trivial
  refine Prog.Respects.bind (hany _) (fun windowStart _ => ?_)
  refine Prog.Respects.bind (hany _) (fun bounds _ => ?_)
  refine Prog.Respects.bind (hany _) (fun dates h => ?_)
  refine Prog.Respects.bind (hread _) (fun found _ => ?_)
  refine Prog.Respects.bind (hany _) (fun totals _ => Prog.Respects.ret ?_)
  exact hdates h

/-- **The label of an emitted month names it** exactly where the browser's clock is not behind UTC
at that midnight. -/
theorem label_names_month_iff {env : Env} {w : World Unit} {order : RowOrder} {zone : Zone}
    {userId : UUID} {anchor : Date} {months : ℤ} {trends : CategoryTrends}
    (h : answer env w (categoryTrends order zone userId anchor months) = .ok trends) {d : Date}
    (hd : d ∈ trends.months) (browser : BrowserZone) :
    formatMonthTick browser d.isoformat = shortMonth d.month ↔
      0 ≤ (browser (utcMidnight d)).seconds :=
  tick_iff ((firsts_categoryTrends order zone userId anchor months).run_post
    (fun _ _ _ => trivial) h d hd)

/-- A browser five hours behind UTC. -/
def behindUtc : BrowserZone := fun _ => ⟨-18000, by decide⟩

/-- A month of an empty list of expenses, an hour ahead of UTC. -/
theorem label_names_month_iff_sample :
    formatMonthTick (fun _ => ⟨3600, by decide⟩) (⟨2026, 4, 1, by decide⟩ : Date).isoformat =
        shortMonth 4 ↔ 0 ≤ (3600 : ℤ) := by
  have h : answer Env.quiet (World.ofDb (Db.ofUsers []))
      (categoryTrends RowOrder.asStored Zone.utc 7 ⟨2026, 4, 25, by decide⟩ 1) =
        .ok ⟨[⟨2026, 4, 1, by decide⟩], [], []⟩ := by
    decide +kernel
  exact label_names_month_iff h (List.mem_singleton_self _) _

/-- Five hours behind UTC, an emitted January is labelled with the December before it. -/
theorem not_label_behindUtc :
    ∃ trends, answer Env.quiet (World.ofDb (Db.ofUsers []))
        (categoryTrends RowOrder.asStored Zone.utc 7 ⟨2026, 1, 25, by decide⟩ 1) = .ok trends ∧
      ⟨2026, 1, 1, by decide⟩ ∈ trends.months ∧
      formatMonthTick behindUtc (⟨2026, 1, 1, by decide⟩ : Date).isoformat ≠ shortMonth 1 :=
  ⟨⟨[⟨2026, 1, 1, by decide⟩], [], []⟩, by decide +kernel, List.mem_singleton_self _,
    by decide +kernel⟩

end SpendLens
