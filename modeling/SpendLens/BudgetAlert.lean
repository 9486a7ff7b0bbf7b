/-
# The budget alert at its threshold

The ratio of a status is rounded three times: to a quotient of 28 digits, to a binary64
number, and once more when it is taken in per cent.  Off the threshold the three errors are
far smaller than the distance of two amounts, so the alert is exact (`alert_of_above`,
`not_alert_of_below`).  At the threshold the ratio is the threshold's own hundredth,
whatever the amounts are, and seven thresholds come out below themselves.
-/
import SpendLens.AnalyticsAgreement

namespace SpendLens

open Rounding

/-! ## Three roundings -/

/-- A bound for the relative error of one rounding. -/
def roundingError : ℚ := 2 / 10 ^ 16

theorem toFloat_error (q : ℚ) : |toFloat q - q| ≤ |q| * roundingError := by
  refine (roundSig_error (by norm_num) q).trans ?_
  rw [mul_div_assoc]
  refine mul_le_mul_of_nonneg_left ?_ (abs_nonneg q)
  rw [roundingError]
  norm_num

theorem quotient_error (q : ℚ) : |roundSig 10 28 q - q| ≤ |q| * roundingError := by
  refine (roundSig_error (by norm_num) q).trans ?_
  rw [mul_div_assoc]
  refine mul_le_mul_of_nonneg_left ?_ (abs_nonneg q)
  rw [roundingError]
  norm_num

/-- A rounded number that is not negative, between its bounds. -/
theorem bounds_of_error {q r : ℚ} (hq : 0 ≤ q) (h : |r - q| ≤ |q| * roundingError) :
    q * (1 - roundingError) ≤ r ∧ r ≤ q * (1 + roundingError) := by
  rw [abs_of_nonneg hq, abs_le] at h
  constructor <;> linarith [h.1, h.2]

/-- What is compared with the threshold. -/
def alertValue (q : ℚ) : ℚ := toFloat (max (toFloat (roundSig 10 28 q)) 0 * 100)

/-- **The value compared** is the exact percentage, up to three roundings. -/
theorem alertValue_bounds {q : ℚ} (hq : 0 ≤ q) :
    100 * q * (1 - roundingError) ^ 3 ≤ alertValue q ∧
      alertValue q ≤ 100 * q * (1 + roundingError) ^ 3 := by
  have hε : (0 : ℚ) < 1 - roundingError := by
    rw [roundingError]
    norm_num
  have hε' : (0 : ℚ) < 1 + roundingError := by
    rw [roundingError]
    norm_num
  obtain ⟨hlow₁, hhigh₁⟩ := bounds_of_error hq (quotient_error q)
  have hq₁ : 0 ≤ roundSig 10 28 q := le_trans (mul_nonneg hq hε.le) hlow₁
  obtain ⟨hlow₂, hhigh₂⟩ := bounds_of_error hq₁ (toFloat_error _)
  have hq₂ : 0 ≤ toFloat (roundSig 10 28 q) := le_trans (mul_nonneg hq₁ hε.le) hlow₂
  obtain ⟨hlow₃, hhigh₃⟩ := bounds_of_error (mul_nonneg hq₂ (by norm_num : (0 : ℚ) ≤ 100))
    (toFloat_error (toFloat (roundSig 10 28 q) * 100))
  rw [alertValue, max_eq_left hq₂]
  constructor
  · calc 100 * q * (1 - roundingError) ^ 3
        = q * (1 - roundingError) * (1 - roundingError) * 100 * (1 - roundingError) := by ring
      _ ≤ roundSig 10 28 q * (1 - roundingError) * 100 * (1 - roundingError) := by gcongr
      _ ≤ toFloat (roundSig 10 28 q) * 100 * (1 - roundingError) := by gcongr
      _ ≤ _ := hlow₃
  · calc toFloat (toFloat (roundSig 10 28 q) * 100)
        ≤ toFloat (roundSig 10 28 q) * 100 * (1 + roundingError) := hhigh₃
      _ ≤ roundSig 10 28 q * (1 + roundingError) * 100 * (1 + roundingError) := by gcongr
      _ ≤ q * (1 + roundingError) * (1 + roundingError) * 100 * (1 + roundingError) := by gcongr
      _ = 100 * q * (1 + roundingError) ^ 3 := by ring

/-- A negative quotient is clamped at zero. -/
theorem alertValue_of_neg {q : ℚ} (hq : q ≤ 0) : alertValue q = 0 := by
  have hone : (0 : ℚ) ≤ 1 - roundingError := by
    rw [roundingError]
    norm_num
  have hdown : ∀ {x r : ℚ}, x ≤ 0 → |r - x| ≤ |x| * roundingError → r ≤ 0 := by
    intro x r hx h
    rw [abs_of_nonpos hx, abs_le] at h
    have hprod : x * (1 - roundingError) ≤ 0 := mul_nonpos_of_nonpos_of_nonneg hx hone
    linarith [h.2]
  have hclamp : toFloat (roundSig 10 28 q) ≤ 0 :=
    hdown (hdown hq (quotient_error q)) (toFloat_error _)
  rw [alertValue, max_eq_right hclamp, zero_mul, toFloat, roundSig_zero]

/-! ## The threshold -/

/-- The thresholds whose hundredth comes out below them when it is taken in per cent. -/
def unevenThresholds : List ℤ := [29, 57, 58, 113, 114, 115, 116]

/-- Is an alert set exactly when that much of the amount, in per cent, is spent? -/
def ExactAlert (thresholdPct amount spent : ℤ) (triggered : Bool) : Prop :=
  triggered = true ↔ thresholdPct * amount ≤ 100 * spent

/-- An alert is set by the value compared. -/
theorem alertReached_iff {spent amount thresholdPct : ℤ} (hamount : 0 < amount) {ratio : Option ℚ}
    (h : spendRatio (.cents spent) (.cents amount) = .ok ratio) :
    alertReached ratio thresholdPct = true ↔
      (thresholdPct : ℚ) ≤ alertValue ((spent : ℚ) / amount) := by
  rw [spendRatio, Numeric.positive?, decide_eq_true hamount] at h
  cases h
  rw [Numeric.quotient, Option.map_some, alertReached, Option.any_some, decide_eq_true_iff,
    alertValue]

section

variable {spent amount thresholdPct : ℤ} (hamount : 0 < amount ∧ amount < 10 ^ 12)
  (hthreshold : 1 ≤ thresholdPct ∧ thresholdPct ≤ 200)

include hamount hthreshold

/-- Spend above the threshold sets the alert. -/
theorem alert_of_above (h : thresholdPct * amount < 100 * spent) :
    (thresholdPct : ℚ) ≤ alertValue ((spent : ℚ) / amount) := by
  have ha : (0 : ℚ) < amount := Int.cast_pos.2 hamount.1
  have ha' : (amount : ℚ) < 10 ^ 12 := by exact_mod_cast hamount.2
  have ht : (1 : ℚ) ≤ thresholdPct := by exact_mod_cast hthreshold.1
  have ht' : (thresholdPct : ℚ) ≤ 200 := by exact_mod_cast hthreshold.2
  have hcents : (thresholdPct * amount + 1 : ℚ) ≤ 100 * spent := by exact_mod_cast h
  -- a cent is a large part of the amount, measured in roundings
  have hgap : (thresholdPct : ℚ) * (1 + 1 / (2 * 10 ^ 14)) ≤ 100 * ((spent : ℚ) / amount) := by
    have hcent : (thresholdPct : ℚ) * (1 / (2 * 10 ^ 14)) * amount ≤ 1 := by
      calc (thresholdPct : ℚ) * (1 / (2 * 10 ^ 14)) * amount
          ≤ 200 * (1 / (2 * 10 ^ 14)) * 10 ^ 12 := by gcongr
        _ = 1 := by norm_num
    rw [← mul_div_assoc, le_div_iff₀ ha]
    linarith
  have hspent : (0 : ℚ) ≤ (spent : ℚ) / amount := by
    have hpos : (0 : ℚ) ≤ (thresholdPct : ℚ) * (1 + 1 / (2 * 10 ^ 14)) := by positivity
    linarith
  have hloss : (1 : ℚ) ≤ (1 + 1 / (2 * 10 ^ 14)) * (1 - roundingError) ^ 3 := by
    rw [roundingError]
    norm_num
  have hfactor : (0 : ℚ) ≤ (1 - roundingError) ^ 3 := by
    rw [roundingError]
    norm_num
  calc (thresholdPct : ℚ)
      ≤ thresholdPct * ((1 + 1 / (2 * 10 ^ 14)) * (1 - roundingError) ^ 3) :=
        le_mul_of_one_le_right (by linarith) hloss
    _ = thresholdPct * (1 + 1 / (2 * 10 ^ 14)) * (1 - roundingError) ^ 3 := by ring
    _ ≤ 100 * ((spent : ℚ) / amount) * (1 - roundingError) ^ 3 :=
        mul_le_mul_of_nonneg_right hgap hfactor
    _ ≤ alertValue ((spent : ℚ) / amount) := (alertValue_bounds hspent).1

/-- Spend below the threshold does not. -/
theorem not_alert_of_below (h : 100 * spent < thresholdPct * amount) :
    alertValue ((spent : ℚ) / amount) < thresholdPct := by
  have ha : (0 : ℚ) < amount := Int.cast_pos.2 hamount.1
  have ha' : (amount : ℚ) < 10 ^ 12 := by exact_mod_cast hamount.2
  have ht : (1 : ℚ) ≤ thresholdPct := by exact_mod_cast hthreshold.1
  have ht' : (thresholdPct : ℚ) ≤ 200 := by exact_mod_cast hthreshold.2
  by_cases hsign : spent ≤ 0
  · have hneg : (spent : ℚ) / amount ≤ 0 :=
      div_nonpos_of_nonpos_of_nonneg (by exact_mod_cast hsign) ha.le
    rw [alertValue_of_neg hneg]
    linarith
  · have hspent : (0 : ℚ) ≤ (spent : ℚ) / amount :=
      div_nonneg (by exact_mod_cast (not_le.1 hsign).le) ha.le
    have hcents : (100 * spent + 1 : ℚ) ≤ thresholdPct * amount := by exact_mod_cast h
    have hgap : 100 * ((spent : ℚ) / amount) ≤ thresholdPct * (1 - 1 / (2 * 10 ^ 14)) := by
      have hcent : (thresholdPct : ℚ) * (1 / (2 * 10 ^ 14)) * amount ≤ 1 := by
        calc (thresholdPct : ℚ) * (1 / (2 * 10 ^ 14)) * amount
            ≤ 200 * (1 / (2 * 10 ^ 14)) * 10 ^ 12 := by gcongr
          _ = 1 := by norm_num
      rw [← mul_div_assoc, div_le_iff₀ ha]
      linarith
    have hgain : (1 - 1 / (2 * 10 ^ 14)) * (1 + roundingError) ^ 3 < 1 := by
      rw [roundingError]
      norm_num
    have hfactor : (0 : ℚ) ≤ (1 + roundingError) ^ 3 := by
      rw [roundingError]
      norm_num
    calc alertValue ((spent : ℚ) / amount)
        ≤ 100 * ((spent : ℚ) / amount) * (1 + roundingError) ^ 3 := (alertValue_bounds hspent).2
      _ ≤ thresholdPct * (1 - 1 / (2 * 10 ^ 14)) * (1 + roundingError) ^ 3 :=
          mul_le_mul_of_nonneg_right hgap hfactor
      _ = thresholdPct * ((1 - 1 / (2 * 10 ^ 14)) * (1 + roundingError) ^ 3) := by ring
      _ < thresholdPct * 1 := mul_lt_mul_of_pos_left hgain (by linarith)
      _ = thresholdPct := mul_one _

omit hamount in
/-- Spend at the threshold sets the alert, unless the threshold is an uneven one. -/
theorem alert_at_iff :
    (thresholdPct : ℚ) ≤ alertValue ((thresholdPct : ℚ) / 100) ↔
      thresholdPct ∉ unevenThresholds := by
  have key : ∀ t : Fin 200, ((t.val + 1 : ℤ) : ℚ) ≤ alertValue (((t.val + 1 : ℤ) : ℚ) / 100) ↔
      (t.val + 1 : ℤ) ∉ unevenThresholds := by decide +kernel
  obtain ⟨n, rfl⟩ : ∃ n : ℕ, thresholdPct = n + 1 := ⟨(thresholdPct - 1).toNat, by omega⟩
  exact key ⟨n, by omega⟩

/-- The alert is exact off the threshold, and at every threshold but seven. -/
theorem alertReached_exact_iff {ratio : Option ℚ}
    (h : spendRatio (.cents spent) (.cents amount) = .ok ratio) :
    ExactAlert thresholdPct amount spent (alertReached ratio thresholdPct) ↔
      ¬ (100 * spent = thresholdPct * amount ∧ thresholdPct ∈ unevenThresholds) := by
  rw [ExactAlert, alertReached_iff hamount.1 h]
  rcases lt_trichotomy (100 * spent) (thresholdPct * amount) with hlt | heq | hgt
  · have hno := not_alert_of_below hamount hthreshold hlt
    simp [not_le.2 hno, not_le.2 hlt, hlt.ne]
  · have hratio : (spent : ℚ) / amount = thresholdPct / 100 := by
      have ha : (amount : ℚ) ≠ 0 := Int.cast_ne_zero.2 hamount.1.ne'
      have hcast : (100 * spent : ℚ) = thresholdPct * amount := by exact_mod_cast heq
      rw [div_eq_div_iff ha (by norm_num)]
      linarith
    rw [hratio, alert_at_iff hthreshold]
    simp [heq]
  · have hyes := alert_of_above hamount hthreshold hgt
    simp [hyes, hgt.le, hgt.ne']

end

/-! ## The alerts of a report -/

/-- A budget as the schema and the column let it be. -/
def Budget.Sound (b : Budget) (amount : ℤ) : Prop :=
  b.amount = .cents amount ∧ 0 < amount ∧ amount < 10 ^ 12 ∧
    1 ≤ b.alertThresholdPct ∧ b.alertThresholdPct ≤ 200

/-- **The alerts of a report are exact** but for the budgets that are spent to an uneven
threshold, and to the cent. -/
theorem report_alerts_exact_iff (env : Env) {w : World Unit} (hdb : ∀ n, env.fault n = .none)
    (hf : w.failed () = false) (order : RowOrder) (userId : UUID) {today : Date}
    (hday : today.monthIndex < 12 * 10000)
    (hfinite : ∀ e ∈ w.seenExpenses, e.userId = userId → e.amount ≠ .nan)
    (hbudgets : ∀ b ∈ w.seenBudgets, b.userId = userId → ∃ amount, b.Sound amount) :
    ∃ report, answer env w (budgetStatus order userId today) = .ok report ∧
      (∀ b ∈ w.seenBudgets, b.Monitored userId →
        ∃ item ∈ report.items, ItemOf w.seenExpenses today b item) ∧
      ∀ item ∈ report.items, ∃ b ∈ w.seenBudgets, ∃ amount, b.Monitored userId ∧ b.Sound amount ∧
        ItemOf w.seenExpenses today b item ∧
        (ExactAlert b.alertThresholdPct amount
            (spend w.seenExpenses userId today.monthIndex b.category) item.alertTriggered ↔
          ¬ (100 * spend w.seenExpenses userId today.monthIndex b.category =
              b.alertThresholdPct * amount ∧ b.alertThresholdPct ∈ unevenThresholds)) := by
  obtain ⟨report, hreport, hitem, honly⟩ := answer_budgetStatus_alerts hdb hf order userId hday
    hfinite (fun b hb hu => by
      obtain ⟨amount, hamount, -⟩ := hbudgets b hb hu
      rw [hamount]
      exact Numeric.noConfusion)
  refine ⟨report, hreport, fun b hb hmon => ?_, fun item hmem => ?_⟩
  · obtain ⟨item, hmem, hof, -⟩ := hitem b hb hmon
    exact ⟨item, hmem, hof⟩
  · obtain ⟨b, hb, hmon, hof, ratio, hratio, halert⟩ := honly item hmem
    obtain ⟨amount, hsound⟩ := hbudgets b hb hmon.1
    refine ⟨b, hb, amount, hmon, hsound, hof, ?_⟩
    rw [hof.spent, hmon.1, hsound.1] at hratio
    rw [halert]
    exact alertReached_exact_iff ⟨hsound.2.1, hsound.2.2.1⟩ hsound.2.2.2 hratio

/-- Twenty-nine dollars of a hundred are spent, with an alert at 29 per cent. -/
def unevenWorld : World Unit :=
  World.ofDb { Db.ofUsers [] with
    expenses := Store.ofTable ⟨[
      { id := 1, userId := 7, merchantName := "Acme", amount := .cents 2900, currency := "USD",
        category := .groceries, expenseDate := ⟨2026, 4, 2, by decide⟩, description := none,
        receiptId := none, source := .manual, createdAt := 0, updatedAt := 0 }], by decide⟩
    budgets := Store.ofTable ⟨[⟨3, 7, .groceries, .cents 10000, .monthly, 29, true, 0, 0⟩],
      by decide⟩ }

theorem budgets_unevenWorld : ∀ b ∈ unevenWorld.seenBudgets, b.userId = 7 →
    ∃ amount, b.Sound amount := by
  intro b hb _
  have hb : b ∈ [(⟨3, 7, .groceries, .cents 10000, .monthly, 29, true, 0, 0⟩ : Budget)] := hb
  rw [List.mem_singleton] at hb
  subst hb
  exact ⟨10000, rfl, by decide, by decide, by decide, by decide⟩

theorem report_alerts_exact_iff_sample :
    ∃ report, answer Env.quiet unevenWorld
        (budgetStatus RowOrder.asStored 7 ⟨2026, 4, 30, by decide⟩) = .ok report ∧
      ∀ item ∈ report.items, ∃ b ∈ unevenWorld.seenBudgets, b.Monitored 7 ∧
        ItemOf unevenWorld.seenExpenses ⟨2026, 4, 30, by decide⟩ b item := by
  have hday : (⟨2026, 4, 30, by decide⟩ : Date).monthIndex < 12 * 10000 := by decide
  obtain ⟨report, hreport, -, honly⟩ := report_alerts_exact_iff Env.quiet (w := unevenWorld)
    (fun _ => rfl) rfl RowOrder.asStored 7 hday (by decide) budgets_unevenWorld
  refine ⟨report, hreport, fun item hmem => ?_⟩
  obtain ⟨b, hb, -, hmon, -, hof, -⟩ := honly item hmem
  exact ⟨b, hb, hmon, hof⟩

/-- **No alert at 29 per cent**: the report says that nothing has been reached. -/
theorem not_exactAlert_of_uneven :
    ∃ report, answer Env.quiet unevenWorld
        (budgetStatus RowOrder.asStored 7 ⟨2026, 4, 30, by decide⟩) = .ok report ∧
      ∃ item ∈ report.items, item.amount = .cents 10000 ∧ item.spent = .cents 2900 ∧
        ¬ ExactAlert 29 10000 2900 item.alertTriggered := by
  have hday : (⟨2026, 4, 30, by decide⟩ : Date).monthIndex < 12 * 10000 := by decide
  obtain ⟨report, hreport, hitem, -⟩ := answer_budgetStatus_alerts (w := unevenWorld)
    (fun n => (rfl : Env.quiet.fault n = .none)) rfl RowOrder.asStored 7 hday (by decide)
    (by decide)
  obtain ⟨item, hmem, hof, ratio, hratio, halert⟩ :=
    hitem ⟨3, 7, .groceries, .cents 10000, .monthly, 29, true, 0, 0⟩ List.mem_cons_self
      ⟨rfl, rfl, rfl⟩
  have hspent : item.spent = .cents 2900 := hof.spent.trans (by decide)
  rw [hspent] at hratio
  refine ⟨report, hreport, item, hmem, hof.amount, hspent, ?_⟩
  rw [halert, alertReached_exact_iff (by decide) (by decide) hratio]
  exact not_not.2 ⟨by decide, by decide⟩

end SpendLens
