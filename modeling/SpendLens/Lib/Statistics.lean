/-
# Sample statistics of integers

The sample variance of a list of integers, through its `spread`, the sum of the squared
differences of the pairs, and the square root of a rational number rounded to an
integer, computed with the integer square root.
-/
import Mathlib.Algebra.BigOperators.Group.List.Basic
import Mathlib.Algebra.Order.BigOperators.Group.List
import Mathlib.Algebra.Order.Floor.Semiring
import Mathlib.Analysis.Real.Sqrt
import Mathlib.Data.Nat.Sqrt
import Mathlib.Tactic.Linarith
import Mathlib.Tactic.Ring

namespace Statistics

/-! ## Variance -/

/-- The sum of the squares. -/
def sumSq (l : List ℤ) : ℤ := (l.map (fun a => a ^ 2)).sum

/-- `n Σ a² − (Σ a)²` -/
def spread (l : List ℤ) : ℤ := l.length * sumSq l - l.sum ^ 2

/-- The sample variance. -/
def sampleVariance (l : List ℤ) : ℚ := spread l / (l.length * (l.length - 1))

example : sampleVariance [1, 2, 3, 4] = 5 / 3 := by decide +kernel

theorem spread_perm {l l' : List ℤ} (h : l.Perm l') : spread l = spread l' := by
  rw [spread, spread, sumSq, sumSq, h.length_eq, h.sum_eq, (h.map _).sum_eq]

theorem sampleVariance_perm {l l' : List ℤ} (h : l.Perm l') :
    sampleVariance l = sampleVariance l' := by
  rw [sampleVariance, sampleVariance, spread_perm h, h.length_eq]

/-- The squared differences from a number. -/
theorem sum_sq_sub (a : ℤ) (l : List ℤ) :
    (l.map (fun b => (a - b) ^ 2)).sum = l.length * a ^ 2 - 2 * a * l.sum + sumSq l := by
  induction l with
  | nil => simp [sumSq]
  | cons b l ih =>
      rw [sumSq] at ih ⊢
      simp only [List.map_cons, List.sum_cons, List.length_cons, ih]
      push_cast
      ring

/-- One more number adds its squared differences from the others. -/
theorem spread_cons (a : ℤ) (l : List ℤ) :
    spread (a :: l) = spread l + (l.map (fun b => (a - b) ^ 2)).sum := by
  rw [sum_sq_sub, spread, spread, sumSq, sumSq]
  simp only [List.map_cons, List.sum_cons, List.length_cons]
  push_cast
  ring

/-- **The spread is never negative.** -/
theorem spread_nonneg (l : List ℤ) : 0 ≤ spread l := by
  induction l with
  | nil => decide
  | cons a l ih =>
      rw [spread_cons]
      apply add_nonneg ih
      apply List.sum_nonneg
      intro x hx
      obtain ⟨b, -, rfl⟩ := List.mem_map.1 hx
      exact sq_nonneg _

theorem sampleVariance_nonneg (l : List ℤ) : 0 ≤ sampleVariance l := by
  rw [sampleVariance]
  apply div_nonneg
  · exact_mod_cast spread_nonneg l
  · rcases l with _ | ⟨a, l⟩
    · simp
    · apply mul_nonneg
      · exact Nat.cast_nonneg _
      · rw [List.length_cons]
        push_cast
        linarith [Nat.cast_nonneg (α := ℚ) l.length]

/-- The variance in whole numbers. -/
theorem le_sampleVariance_iff {l : List ℤ} (h : 2 ≤ l.length) (q : ℚ) :
    q ≤ sampleVariance l ↔ q * (l.length * (l.length - 1)) ≤ spread l := by
  have hlength : (2 : ℚ) ≤ l.length := by exact_mod_cast h
  have hpos : (0 : ℚ) < l.length * (l.length - 1) := by
    apply mul_pos <;> linarith
  rw [sampleVariance, le_div_iff₀ hpos]

/-! ## Rounded square roots -/

/-- The square root of a number, half a unit rounded up. -/
def roundSqrt (q : ℚ) : ℕ := (Nat.sqrt ⌊4 * q⌋₊ + 1) / 2

example : roundSqrt (25 / 4) = 3 := by decide +kernel

/-- **The computed root is the rounded real root.** -/
theorem roundSqrt_eq {q : ℚ} (hq : 0 ≤ q) : roundSqrt q = ⌊√(q : ℝ) + 1 / 2⌋₊ := by
  have hreal : (0 : ℝ) ≤ q := by exact_mod_cast hq
  have hroot := Real.sqrt_nonneg (q : ℝ)
  have hsq : √(q : ℝ) ^ 2 = q := Real.sq_sqrt hreal
  -- the integer square root is the floor of twice the root
  have hfloor : Nat.sqrt ⌊4 * q⌋₊ = ⌊2 * √(q : ℝ)⌋₊ := by
    have hle : ∀ n : ℕ, n ≤ Nat.sqrt ⌊4 * q⌋₊ ↔ n ≤ ⌊2 * √(q : ℝ)⌋₊ := by
      intro n
      rw [Nat.le_sqrt', Nat.le_floor_iff (by linarith), Nat.le_floor_iff (by linarith)]
      have hcast : ((n ^ 2 : ℕ) : ℚ) ≤ 4 * q ↔ (n : ℝ) ^ 2 ≤ (2 * √(q : ℝ)) ^ 2 := by
        rw [mul_pow, hsq, ← Rat.cast_le (K := ℝ)]
        push_cast
        norm_num
      rw [hcast]
      exact pow_le_pow_iff_left₀ (Nat.cast_nonneg n) (by linarith) (by norm_num)
    exact le_antisymm ((hle _).1 (le_refl _)) ((hle _).2 (le_refl _))
  have hhalf : ∀ n : ℕ, n ≤ (⌊2 * √(q : ℝ)⌋₊ + 1) / 2 ↔ n ≤ ⌊√(q : ℝ) + 1 / 2⌋₊ := by
    intro n
    rw [Nat.le_div_iff_mul_le (by norm_num), Nat.le_floor_iff (by linarith)]
    cases n with
    | zero =>
        constructor
        · intro _
          rw [Nat.cast_zero]
          linarith
        · intro _
          omega
    | succ n =>
        have hshift : (n + 1) * 2 ≤ ⌊2 * √(q : ℝ)⌋₊ + 1 ↔ 2 * n + 1 ≤ ⌊2 * √(q : ℝ)⌋₊ := by omega
        rw [hshift, Nat.le_floor_iff (by linarith)]
        push_cast
        constructor
        · intro h
          linarith
        · intro h
          linarith
  rw [roundSqrt, hfloor]
  exact le_antisymm ((hhalf _).1 (le_refl _)) ((hhalf _).2 (le_refl _))

/-- A root rounds to nothing below a half. -/
theorem roundSqrt_pos_iff (q : ℚ) : 0 < roundSqrt q ↔ 1 / 4 ≤ q := by
  have hone : 0 < roundSqrt q ↔ 1 ≤ Nat.sqrt ⌊4 * q⌋₊ := by
    rw [roundSqrt]
    omega
  rw [hone, Nat.le_sqrt', one_pow, Nat.one_le_floor_iff]
  constructor
  · intro h
    linarith
  · intro h
    linarith

end Statistics
