/-
# Rounding to significant digits

`roundSig b p` rounds a number to `p` significant digits in base `b`, to the nearest
and on a tie to the even one, for an unbounded range of exponents: base 10 with 28
digits is a quotient in the default decimal context, base 2 with 53 digits a
binary64 number.
-/
import Mathlib.Data.Int.Log
import Mathlib.Data.Rat.Floor
import Mathlib.Algebra.Order.Round
import Mathlib.Tactic.Linarith
import Mathlib.Tactic.FieldSimp
import Mathlib.Tactic.Positivity

namespace Rounding

/-- The nearest integer, the even one of two. -/
def roundHalfEven (q : ℚ) : ℤ :=
  if Int.fract q < 1 / 2 then ⌊q⌋
  else if 1 / 2 < Int.fract q then ⌊q⌋ + 1
  else if ⌊q⌋ % 2 = 0 then ⌊q⌋
  else ⌊q⌋ + 1

/-- The nearest number with `p` significant digits in base `b`. -/
def roundSig (b p : ℕ) (q : ℚ) : ℚ :=
  let unit : ℚ := (b : ℚ) ^ (Int.log b |q| - (p - 1))
  roundHalfEven (q / unit) * unit

example : roundSig 10 3 (2 / 3) = 667 / 1000 := by decide +kernel

/-! ## Integers -/

theorem roundHalfEven_error (q : ℚ) : |(roundHalfEven q : ℚ) - q| ≤ 1 / 2 := by
  have hfloor : (⌊q⌋ : ℚ) = q - Int.fract q := by
    rw [← Int.self_sub_floor q]
    ring
  have hnonneg := Int.fract_nonneg q
  have hlt := Int.fract_lt_one q
  have hdown : Int.fract q ≤ 1 / 2 → |(⌊q⌋ : ℚ) - q| ≤ 1 / 2 := by
    intro h
    rw [abs_le]
    constructor <;> linarith
  have hup : 1 / 2 ≤ Int.fract q → |((⌊q⌋ + 1 : ℤ) : ℚ) - q| ≤ 1 / 2 := by
    intro h
    rw [abs_le]
    push_cast
    constructor <;> linarith
  unfold roundHalfEven
  split
  · rename_i h
    exact hdown h.le
  · rename_i h
    split
    · rename_i h'
      exact hup h'.le
    · rename_i h'
      split
      · exact hdown (not_lt.1 h')
      · exact hup (not_lt.1 h)

@[simp] theorem roundHalfEven_intCast (n : ℤ) : roundHalfEven (n : ℚ) = n := by
  rw [roundHalfEven, Int.fract_intCast, if_pos (by norm_num), Int.floor_intCast]

/-- Rounding stops at integers. -/
theorem roundHalfEven_le_of_le {q : ℚ} {n : ℤ} (h : q ≤ n) : roundHalfEven q ≤ n := by
  have herror := (abs_le.1 (roundHalfEven_error q)).2
  have hlt : (roundHalfEven q : ℚ) < (n + 1 : ℤ) := by
    push_cast
    linarith
  exact Int.lt_add_one_iff.1 (Int.cast_lt.1 hlt)

theorem roundHalfEven_of_lt {q : ℚ} (h : Int.fract q < 1 / 2) : roundHalfEven q = ⌊q⌋ := if_pos h

theorem roundHalfEven_of_gt {q : ℚ} (h : 1 / 2 < Int.fract q) : roundHalfEven q = ⌊q⌋ + 1 := by
  rw [roundHalfEven, if_neg h.not_gt, if_pos h]

theorem roundHalfEven_of_tie {q : ℚ} (h : Int.fract q = 1 / 2) :
    roundHalfEven q = if ⌊q⌋ % 2 = 0 then ⌊q⌋ else ⌊q⌋ + 1 := by
  rw [roundHalfEven, if_neg h.not_lt, if_neg h.not_gt]

/-- Rounding treats both signs alike. -/
theorem roundHalfEven_neg (q : ℚ) : roundHalfEven (-q) = -roundHalfEven q := by
  by_cases hint : Int.fract q = 0
  · have hq : q = ⌊q⌋ := by
      have h := Int.self_sub_floor q
      rw [hint] at h
      linarith
    rw [hq, ← Int.cast_neg, roundHalfEven_intCast, roundHalfEven_intCast]
  · have hfract : Int.fract (-q) = 1 - Int.fract q := Int.fract_neg hint
    have hfloor : ⌊-q⌋ = -⌊q⌋ - 1 := by
      have h₁ := Int.self_sub_floor q
      have h₂ := Int.self_sub_floor (-q)
      have hrat : (⌊-q⌋ : ℚ) = ((-⌊q⌋ - 1 : ℤ) : ℚ) := by
        push_cast
        linarith
      exact Int.cast_injective hrat
    rcases lt_trichotomy (Int.fract q) (1 / 2) with hlt | htie | hgt
    · rw [roundHalfEven_of_lt hlt, roundHalfEven_of_gt (by rw [hfract]; linarith), hfloor]
      omega
    · -- exactly one of the two floors is even
      rw [roundHalfEven_of_tie htie, roundHalfEven_of_tie (by rw [hfract, htie]; norm_num), hfloor]
      by_cases heven : ⌊q⌋ % 2 = 0
      · rw [if_pos heven, if_neg (by omega)]
        omega
      · rw [if_neg heven, if_pos (by omega)]
        omega
    · rw [roundHalfEven_of_gt hgt, roundHalfEven_of_lt (by rw [hfract]; linarith), hfloor]
      omega

/-! ## Significant digits -/

/-- The unit of the last of `p` digits. -/
def ulp (b p : ℕ) (q : ℚ) : ℚ := (b : ℚ) ^ (Int.log b |q| - (p - 1))

theorem roundSig_eq (b p : ℕ) (q : ℚ) :
    roundSig b p q = roundHalfEven (q / ulp b p q) * ulp b p q := rfl

variable {b p : ℕ} {q : ℚ}

theorem ulp_pos (hb : 1 < b) : 0 < ulp b p q :=
  zpow_pos (Nat.cast_pos.2 (Nat.zero_lt_of_lt hb)) _

theorem ulp_le (hb : 1 < b) (hq : q ≠ 0) : ulp b p q ≤ |q| * (b : ℚ) ^ (1 - p : ℤ) := by
  have hb' : (0 : ℚ) < b := Nat.cast_pos.2 (Nat.zero_lt_of_lt hb)
  have hexp : (Int.log b |q| - (p - 1) : ℤ) = Int.log b |q| + (1 - p) := by ring
  rw [ulp, hexp, zpow_add₀ hb'.ne']
  exact mul_le_mul_of_nonneg_right (Int.zpow_log_le_self hb (abs_pos.2 hq)) (zpow_nonneg hb'.le _)

@[simp] theorem roundSig_zero : roundSig b p 0 = 0 := by
  have hzero : roundHalfEven (0 : ℚ) = 0 := roundHalfEven_intCast 0
  simp [roundSig, hzero]

theorem roundSig_neg (b p : ℕ) (q : ℚ) : roundSig b p (-q) = -roundSig b p q := by
  rw [roundSig_eq, roundSig_eq, ulp, ulp, abs_neg, neg_div, roundHalfEven_neg, Int.cast_neg,
    neg_mul]

/-- **A rounded number** differs from the number by half a unit of its last digit. -/
theorem roundSig_error (hb : 1 < b) (q : ℚ) :
    |roundSig b p q - q| ≤ |q| * (b : ℚ) ^ (1 - p : ℤ) / 2 := by
  by_cases hq : q = 0
  · subst hq
    rw [roundSig_zero]
    simp
  · have hpos : 0 < ulp b p q := ulp_pos hb
    have hsplit : roundSig b p q - q =
        (roundHalfEven (q / ulp b p q) - q / ulp b p q) * ulp b p q := by
      rw [roundSig_eq, sub_mul, div_mul_cancel₀ _ hpos.ne']
    calc |roundSig b p q - q|
        = |(roundHalfEven (q / ulp b p q) : ℚ) - q / ulp b p q| * ulp b p q := by
          rw [hsplit, abs_mul, abs_of_pos hpos]
      _ ≤ 1 / 2 * ulp b p q := mul_le_mul_of_nonneg_right (roundHalfEven_error _) hpos.le
      _ ≤ |q| * (b : ℚ) ^ (1 - p : ℤ) / 2 := by linarith [ulp_le (p := p) hb hq]

/-- The unit of a number below `b ^ p` divides every integer. -/
theorem intCast_div_ulp (hb : 1 < b) (hq : q ≠ 0) (hlt : |q| < (b : ℚ) ^ p) (n : ℤ) :
    ∃ m : ℤ, (n : ℚ) / ulp b p q = m := by
  have hlog : Int.log b |q| < p := by
    rw [← Int.lt_zpow_iff_log_lt hb (abs_pos.2 hq), zpow_natCast]
    exact hlt
  obtain ⟨k, hk⟩ : ∃ k : ℕ, Int.log b |q| - (p - 1) = -(k : ℤ) :=
    ⟨((p - 1 : ℤ) - Int.log b |q|).toNat, by omega⟩
  refine ⟨n * (b : ℤ) ^ k, ?_⟩
  rw [ulp, hk, zpow_neg, zpow_natCast, div_inv_eq_mul]
  push_cast
  rfl

/-- An integer of at most `p` digits is left alone. -/
theorem roundSig_intCast (hb : 1 < b) {n : ℤ} (hn : |(n : ℚ)| < (b : ℚ) ^ p) :
    roundSig b p n = n := by
  by_cases hzero : n = 0
  · subst hzero
    exact roundSig_zero
  · obtain ⟨m, hm⟩ := intCast_div_ulp hb (Int.cast_ne_zero.2 hzero) hn n
    rw [roundSig_eq, hm, roundHalfEven_intCast, ← hm, div_mul_cancel₀ _ (ulp_pos hb).ne']

/-- No number is rounded up past an integer. -/
theorem roundSig_le_intCast (hb : 1 < b) (hlt : |q| < (b : ℚ) ^ p) {n : ℤ} (h : q ≤ n) :
    roundSig b p q ≤ n := by
  by_cases hzero : q = 0
  · subst hzero
    rw [roundSig_zero]
    exact h
  · have hpos : 0 < ulp b p q := ulp_pos hb
    obtain ⟨m, hm⟩ := intCast_div_ulp hb hzero hlt n
    have hquot : q / ulp b p q ≤ m := by
      rw [← hm]
      exact div_le_div_of_nonneg_right h hpos.le
    rw [roundSig_eq, ← div_mul_cancel₀ (n : ℚ) hpos.ne', hm]
    exact mul_le_mul_of_nonneg_right (Int.cast_le.2 (roundHalfEven_le_of_le hquot)) hpos.le

/-- The unit of a number of at least `b ^ e` is a multiple of the last unit there. -/
theorem exists_roundSig_eq (hb : 1 < b) {e : ℤ} (h : (b : ℚ) ^ e ≤ |q|) :
    ∃ m : ℤ, roundSig b p q = m * (b : ℚ) ^ (e - (p - 1)) := by
  have hb' : (0 : ℚ) < b := Nat.cast_pos.2 (Nat.zero_lt_of_lt hb)
  have hpos : 0 < |q| := (zpow_pos hb' e).trans_le h
  have hlog : e ≤ Int.log b |q| := (Int.zpow_le_iff_le_log hb hpos).1 h
  obtain ⟨k, hk⟩ : ∃ k : ℕ, Int.log b |q| - (p - 1) = (k : ℤ) + (e - (p - 1)) :=
    ⟨(Int.log b |q| - e).toNat, by omega⟩
  refine ⟨roundHalfEven (q / ulp b p q) * (b : ℤ) ^ k, ?_⟩
  rw [roundSig_eq]
  nth_rewrite 2 [ulp]
  rw [hk, zpow_add₀ hb'.ne', zpow_natCast]
  push_cast
  ring

end Rounding
